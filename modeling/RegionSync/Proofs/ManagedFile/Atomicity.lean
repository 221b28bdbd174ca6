import RegionSync.Proofs.ManagedFile.Writing
import RegionSync.Proofs.Merge.Idempotence
import RegionSync.Proofs.Outcome

/-!
# Calls on managed files

A run is a list of calls on managed files, one after the other on one file
system.  In each call the disk may refuse other steps.  `Step.IsAtomic` is what
each call promises: a call that fails changes nothing, a check changes nothing,
and any other call replaces the document of its path or changes nothing.  What
an update leaves is the merge of what it read.  An update that finds no drift
writes nothing, and then the merge gives the text that is there already.

One step is atomic, and all steps of a run are.  So a location that shows
something else after a run was the target of a call that succeeded.
-/

namespace RegionSync

/-- What is done with a managed file. -/
inductive Operation where
  | init (force : Bool)
  | update
  | check
  deriving DecidableEq, Repr

/-- What an operation returns. -/
inductive Answer where
  | initialized
  | updated (report : UpdateReport)
  | checked (report : CheckReport)
  deriving DecidableEq, Repr

/-- A managed file, what is done with it and what the disk refuses meanwhile. -/
structure Call where
  managed : ManagedFile
  operation : Operation
  refusals : Refusals
  deriving DecidableEq, Repr

/-- What a call returns, and the file system that it leaves. -/
def Call.perform (call : Call) (files : FileSystem) :
    Except ManagedFault Answer × FileSystem :=
  match call.operation with
  | .init force =>
      (call.managed.init force files call.refusals).map
        (Except.map fun _ => .initialized) id
  | .update =>
      (call.managed.update files call.refusals).map (Except.map .updated) id
  | .check => ((call.managed.check files).map .checked, files)

/-- A call on a file system, with what it returns and leaves. -/
structure Step where
  call : Call
  before : FileSystem
  answer : Except ManagedFault Answer
  after : FileSystem

/-- The step of a call on a file system. -/
def Call.step (call : Call) (files : FileSystem) : Step :=
  { call
    before := files
    answer := (call.perform files).1
    after := (call.perform files).2 }

namespace FileSystem

/-- The steps of some calls, one after the other. -/
def steps (files : FileSystem) : List Call → List Step
  | [] => []
  | call :: rest => call.step files :: (call.step files).after.steps rest

/-- The file system after some calls. -/
def run (files : FileSystem) : List Call → FileSystem
  | [] => files
  | call :: rest => (call.step files).after.run rest

end FileSystem

namespace Step

/-- The document of the path is replaced by a text, and nothing else
changes. -/
def Writes (step : Step) (text : Text) (location : Location) : Prop :=
  step.before.Replaces step.after step.call.managed.path text location

/-- The document of the path is merged with the registry, and the report is
that of the merge. -/
def Merges (step : Step) (report : UpdateReport) : Prop :=
  ∃ old document,
    step.before.readText step.call.managed.path = .ok old ∧
      Document.parse old = .ok document ∧
      report = (document.merge step.call.managed.registry).2 ∧
      step.after.readText step.call.managed.path =
        .ok (document.merge step.call.managed.registry).1.render

/-- What a call promises. -/
structure IsAtomic (step : Step) : Prop where
  failed : ∀ fault, step.answer = .error fault → step.after = step.before
  checked : step.call.operation = .check → step.after = step.before
  succeeded :
    ∀ answer,
      step.answer = .ok answer →
        step.after = step.before ∨
          ∃ text location, step.Writes text location
  initialized :
    ∀ force answer,
      step.call.operation = .init force →
        step.answer = .ok answer →
          ∃ location,
            step.Writes (ManagedFile.freshText step.call.managed.registry)
              location
  updated :
    ∀ answer,
      step.call.operation = .update →
        step.answer = .ok answer →
          ∃ report, answer = .updated report ∧ step.Merges report

end Step

/-! ## One call -/

namespace ManagedFile

variable
  {managed : ManagedFile}
  {files : FileSystem}

theorem read_eq_ok_iff
    {document : Document} :
    managed.read files = .ok document ↔
      ∃ text,
        files.readText managed.path = .ok text ∧
          Document.parse text = .ok document := by
  unfold ManagedFile.read
  cases files.readText managed.path with
  | error error => cases error <;> simp
  | ok text => simpa using Except.mapError_eq_ok_iff

theorem init_cases
    (managed : ManagedFile)
    (force : Bool)
    (named : files.HasNamedWorkDir)
    (refusals : Refusals) :
    (∃ fault, managed.init force files refusals = (.error fault, files)) ∨
    ∃ after location,
      managed.init force files refusals = (.ok (), after) ∧
        files.Replaces after managed.path (freshText managed.registry)
          location := by
  unfold init
  cases files.pathExists managed.path with
  | error error =>
      exact Or.inl ⟨managed.fault .checkExistence error, rfl⟩
  | ok isThere =>
      dsimp only
      split
      · exact Or.inl ⟨.alreadyExists managed.path, rfl⟩
      · exact managed.write_cases (freshText managed.registry) named refusals

/-- An update fails and changes nothing, or it merges what it read.  If the
merge changes nothing then neither does the update. -/
theorem update_cases
    (managed : ManagedFile)
    (named : files.HasNamedWorkDir)
    (refusals : Refusals) :
    (∃ fault, managed.update files refusals = (.error fault, files)) ∨
    ∃ old document after,
      files.readText managed.path = .ok old ∧
        Document.parse old = .ok document ∧
        managed.update files refusals =
          (.ok (document.merge managed.registry).2, after) ∧
        after.readText managed.path =
          .ok (document.merge managed.registry).1.render ∧
        (after = files ∨
          ∃ location,
            files.Replaces after managed.path
              (document.merge managed.registry).1.render location) := by
  unfold update
  cases read : managed.read files with
  | error fault => exact Or.inl ⟨fault, rfl⟩
  | ok document =>
      rcases read_eq_ok_iff.mp read with ⟨old, readable, parsed⟩
      dsimp only
      cases changed : (document.merge managed.registry).2.isChanged with
      | false =>
          refine Or.inr ⟨old, document, files, readable, parsed, rfl, ?_,
            Or.inl rfl⟩
          rw [Document.merge_fst_of_isChanged_eq_false changed,
            Document.render_eq_layoutText, Document.layoutText_of_parse parsed]
          exact readable
      | true =>
          rcases managed.write_cases
              (document.merge managed.registry).1.render named refusals with
            ⟨fault, failed⟩ | ⟨after, location, written, replaces⟩
          · refine Or.inl ⟨fault, ?_⟩
            rw [if_pos rfl, failed]
          · refine Or.inr ⟨old, document, after, readable, parsed, ?_,
              replaces.reads, Or.inr ⟨location, replaces⟩⟩
            rw [if_pos rfl, written]

end ManagedFile

namespace Step

variable {step : Step}

theorem isAtomic_of_error
    {fault : ManagedFault}
    (failed : step.answer = .error fault)
    (same : step.after = step.before) :
    step.IsAtomic := by
  have noAnswer (answer : Answer) : step.answer ≠ .ok answer := by
    rw [failed]
    nofun
  constructor
  · exact fun _ _ => same
  · exact fun _ => same
  · exact fun _ _ => Or.inl same
  · exact fun _ answer _ succeeded => absurd succeeded (noAnswer answer)
  · exact fun answer _ succeeded => absurd succeeded (noAnswer answer)

end Step

namespace Call

variable
  {call : Call}
  {managed : ManagedFile}
  {refusals : Refusals}
  {files after : FileSystem}

theorem step_of_perform
    {answer : Except ManagedFault Answer}
    (performed : call.perform files = (answer, after)) :
    call.step files = ⟨call, files, answer, after⟩ := by
  rw [step, performed]

theorem perform_of_init
    {force : Bool}
    {answer : Except ManagedFault Unit}
    (done : managed.init force files refusals = (answer, after)) :
    Call.perform ⟨managed, .init force, refusals⟩ files =
      (answer.map fun _ => .initialized, after) := by
  dsimp only [perform]
  rw [done]
  rfl

theorem perform_of_update
    {answer : Except ManagedFault UpdateReport}
    (done : managed.update files refusals = (answer, after)) :
    Call.perform ⟨managed, .update, refusals⟩ files =
      (answer.map .updated, after) := by
  dsimp only [perform]
  rw [done]
  rfl

theorem init_isAtomic
    (managed : ManagedFile)
    (force : Bool)
    (refusals : Refusals)
    (named : files.HasNamedWorkDir) :
    (Call.step ⟨managed, .init force, refusals⟩ files).IsAtomic := by
  rcases managed.init_cases force named refusals with
    ⟨fault, failed⟩ | ⟨after, location, succeeded, replaces⟩
  · rw [step_of_perform (perform_of_init failed)]
    exact Step.isAtomic_of_error rfl rfl
  · rw [step_of_perform (perform_of_init succeeded)]
    constructor
    · nofun
    · nofun
    · exact fun _ _ => Or.inr ⟨_, location, replaces⟩
    · exact fun _ _ _ _ => ⟨location, replaces⟩
    · nofun

theorem update_isAtomic
    (managed : ManagedFile)
    (refusals : Refusals)
    (named : files.HasNamedWorkDir) :
    (Call.step ⟨managed, .update, refusals⟩ files).IsAtomic := by
  rcases managed.update_cases named refusals with
    ⟨fault, failed⟩ |
    ⟨old, document, after, readable, parsed, succeeded, reads, changed⟩
  · rw [step_of_perform (perform_of_update failed)]
    exact Step.isAtomic_of_error rfl rfl
  · rw [step_of_perform (perform_of_update succeeded)]
    constructor
    · nofun
    · nofun
    · intro answer returned
      rcases changed with same | ⟨location, replaces⟩
      · exact Or.inl same
      · exact Or.inr ⟨_, location, replaces⟩
    · nofun
    · intro answer isUpdate returned
      obtain rfl := Except.ok.inj returned
      exact ⟨_, rfl, old, document, readable, parsed, rfl, reads⟩

theorem check_isAtomic
    (managed : ManagedFile)
    (refusals : Refusals)
    (files : FileSystem) :
    (Call.step ⟨managed, .check, refusals⟩ files).IsAtomic := by
  constructor
  · exact fun _ _ => rfl
  · exact fun _ => rfl
  · exact fun _ _ => Or.inl rfl
  · nofun
  · nofun

/-- A call keeps its promises, whatever the state of the file system and
whatever the disk refuses. -/
theorem step_isAtomic
    (call : Call)
    (named : files.HasNamedWorkDir) :
    (call.step files).IsAtomic := by
  rcases call with ⟨managed, operation, refusals⟩
  cases operation with
  | init force => exact init_isAtomic managed force refusals named
  | update => exact update_isAtomic managed refusals named
  | check => exact check_isAtomic managed refusals files

end Call

/-! ## Runs -/

namespace Step

variable {step : Step}

theorem IsAtomic.after_eq_or_writes (atomic : step.IsAtomic) :
    step.after = step.before ∨
      ∃ answer text location,
        step.answer = .ok answer ∧ step.Writes text location := by
  cases returned : step.answer with
  | error fault => exact Or.inl (atomic.failed fault returned)
  | ok answer =>
      rcases atomic.succeeded answer returned with
        same | ⟨text, location, writes⟩
      · exact Or.inl same
      · exact Or.inr ⟨answer, text, location, rfl, writes⟩

theorem IsAtomic.sameWorkDir (atomic : step.IsAtomic) :
    step.after.workDir = step.before.workDir := by
  rcases atomic.after_eq_or_writes with same | ⟨_, _, _, _, writes⟩
  · rw [same]
  · exact writes.sameWorkDir

/-- What one call changes is the target of its write. -/
theorem IsAtomic.writes_of_entry?_ne
    {location : Location}
    (atomic : step.IsAtomic)
    (changed :
      step.after.entry? location ≠ step.before.entry? location) :
    ∃ answer text,
      step.answer = .ok answer ∧ step.Writes text location := by
  rcases atomic.after_eq_or_writes with
    same | ⟨answer, text, written, succeeded, writes⟩
  · rw [same] at changed
    exact absurd rfl changed
  · have here : location = written := by
      by_contra different
      exact changed (writes.others location different)
    exact ⟨answer, text, succeeded, here ▸ writes⟩

end Step

namespace FileSystem

theorem HasNamedWorkDir.step
    {files : FileSystem}
    (named : files.HasNamedWorkDir)
    (call : Call) :
    (call.step files).after.HasNamedWorkDir := by
  have same := (call.step_isAtomic named).sameWorkDir
  unfold HasNamedWorkDir
  rw [same]
  exact named

theorem isAtomic_of_mem_steps
    {files : FileSystem}
    (named : files.HasNamedWorkDir)
    (calls : List Call) :
    ∀ step ∈ files.steps calls, step.IsAtomic := by
  induction calls generalizing files with
  | nil => exact fun step member => absurd member List.not_mem_nil
  | cons call rest ih =>
      intro step member
      rcases List.mem_cons.mp member with rfl | below
      · exact call.step_isAtomic named
      · exact ih (named.step call) step below

/-- What a run changes is the target of a write of one of its calls. -/
theorem exists_step_of_entry?_ne
    {files : FileSystem}
    (named : files.HasNamedWorkDir)
    (calls : List Call)
    {location : Location}
    (changed : entry? (files.run calls) location ≠ files.entry? location) :
    ∃ step ∈ files.steps calls,
      ∃ answer text,
        step.answer = .ok answer ∧ step.Writes text location := by
  induction calls generalizing files with
  | nil => exact absurd rfl changed
  | cons call rest ih =>
      by_cases first :
          entry? (call.step files).after location = files.entry? location
      · rw [← first] at changed
        rcases ih (named.step call) changed with ⟨step, member, writes⟩
        exact ⟨step, List.mem_cons_of_mem _ member, writes⟩
      · have atomic := call.step_isAtomic named
        exact ⟨call.step files, List.mem_cons_self,
          atomic.writes_of_entry?_ne first⟩

/-- Each call of a run is atomic, and the run changes what its calls write and
nothing else. -/
theorem run_isAtomic
    {files : FileSystem}
    (named : files.HasNamedWorkDir)
    (calls : List Call) :
    (∀ step ∈ files.steps calls, step.IsAtomic) ∧
      ∀ location,
        entry? (files.run calls) location ≠ files.entry? location →
          ∃ step ∈ files.steps calls,
            ∃ answer text,
              step.answer = .ok answer ∧ step.Writes text location := by
  constructor
  · exact isAtomic_of_mem_steps named calls
  · intro location changed
    exact exists_step_of_entry?_ne named calls changed

/-- A drifted document behind a symbolic link.  The disk refuses the steps of
filling a temporary file one after the other, and only then is the document
updated; then it is checked, and not overwritten without `force`. -/
theorem run_isAtomic_behind_link :
    ∃ (files : FileSystem) (calls : List Call),
      files.HasNamedWorkDir ∧
        (files.steps calls).map (fun step => step.answer.map fun _ => ()) =
          [.error (.io (.temporary .write) "link".toList .resourceBusy),
            .error (.io (.temporary .setMode) "link".toList .resourceBusy),
            .error (.io (.temporary .sync) "link".toList .resourceBusy),
            .ok (), .ok (), .error (.alreadyExists "link".toList)] ∧
        (∀ step ∈ files.steps calls, step.IsAtomic) ∧
        ∃ step ∈ files.steps calls,
          ∃ answer text,
            step.answer = .ok answer ∧
              step.Writes text ["real".toList, "docs".toList, "work".toList] := by
  let drifted : Text :=
    "<!-- BEGIN: a v1 -->\nold\n<!-- END: a -->\n".toList
  let files : FileSystem :=
    ⟨[(["docs".toList, "work".toList], .directory),
      (["real".toList, "docs".toList, "work".toList],
        .file ⟨1, 0o600, .text drifted⟩),
      (["link".toList, "work".toList], .link "docs/real".toList)],
      ["work".toList]⟩
  let managed : ManagedFile :=
    ⟨"link".toList, ⟨[⟨"a".toList, "2".toList, "new".toList⟩]⟩⟩
  let calls : List Call :=
    [⟨managed, .update, [(.write, .resourceBusy)]⟩,
      ⟨managed, .update, [(.setMode, .resourceBusy)]⟩,
      ⟨managed, .update, [(.sync, .resourceBusy)]⟩,
      ⟨managed, .update, []⟩,
      ⟨managed, .check, []⟩,
      ⟨managed, .init false, []⟩]
  have named : files.HasNamedWorkDir := by decide
  have changed :
      entry? (files.run calls)
          ["real".toList, "docs".toList, "work".toList] ≠
        files.entry? ["real".toList, "docs".toList, "work".toList] := by
    decide +kernel
  have atomic := run_isAtomic named calls
  exact ⟨files, calls, named, by decide +kernel, atomic.1,
    atomic.2 _ changed⟩

end FileSystem

end RegionSync
