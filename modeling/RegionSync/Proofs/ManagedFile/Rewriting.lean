import RegionSync.Proofs.ManagedFile.Atomicity
import RegionSync.Proofs.Merge.Change

/-!
# When an update rewrites its file

A file that is rewritten is another file: a document is written to a temporary
file and renamed, and the temporary file has an identity that no file had.  So
the identity of the file at a path tells whether an update has written, even
where the text is the same.

`UpdatesExactly` says that an update writes the new text if it differs from
the old one, and leaves the file alone if it does not.  Every update does so if
no line of a stored body ends in a carriage return, since then the report of a
merge names exactly the regions whose text changes.
-/

namespace RegionSync

namespace FileSystem

variable
  {files : FileSystem}
  {path : Path}
  {text : Text}
  {location : Location}
  {file : File}

theorem entry?_mem_entries
    {entry : Entry}
    (shown : files.entry? location = some entry)
    (noDirectory : entry ≠ .directory) :
    (location, entry) ∈ files.entries := by
  have outside : ¬location <:+ files.workDir := by
    intro above
    rw [entry?_of_suffix_workDir above] at shown
    exact noDirectory (Option.some.inj shown).symm
  rw [entry?_eq_lookup outside, List.lookup_eq_some_iff] at shown
  rcases shown with ⟨before, after, cut, -⟩
  rw [cut]
  exact List.mem_append_right _ List.mem_cons_self

/-- No file has the identity of a new file. -/
theorem identity_lt_freshIdentity
    (shown : files.entry? location = some (.file file)) :
    file.identity < files.freshIdentity := by
  have member := entry?_mem_entries shown nofun
  unfold freshIdentity
  dsimp only
  rw [List.foldl_max]
  refine Nat.lt_succ_of_le (List.le_max?_getD_of_mem ?_)
  exact List.mem_map.mpr ⟨(location, .file file), member, rfl⟩

theorem identity?_eq_some_iff
    {identity : Nat} :
    files.identity? path = some identity ↔
      ∃ location file,
        files.Reaches .follow path location ∧
          files.entry? location = some (.file file) ∧
          file.identity = identity := by
  unfold identity?
  constructor
  · intro found
    cases stood : files.stat path with
    | error error => simp [stood] at found
    | ok arrival =>
        rcases arrival with ⟨location, entry⟩
        rw [stood] at found
        rcases statWith_eq_ok_iff.mp stood with ⟨reaches, shown⟩
        cases entry with
        | file file =>
            exact ⟨location, file, reaches, shown, Option.some.inj found⟩
        | directory => cases found
        | link target => cases found
  · rintro ⟨location, file, reaches, shown, rfl⟩
    rw [stat, statWith_eq_ok_iff.mpr ⟨reaches, shown⟩]

/-- A document that was written is not the file that was there. -/
theorem TakesDocument.identity?_ne
    (takes : files.TakesDocument path text location) :
    (files.withDocument location text).identity? path ≠
      files.identity? path := by
  have written :
      (files.withDocument location text).identity? path =
        some files.freshIdentity := by
    rw [identity?, stat, statWith_withDocument takes.free takes.reaches]
    rfl
  intro same
  rw [written] at same
  rcases identity?_eq_some_iff.mp same.symm with
    ⟨place, file, -, shown, identity⟩
  exact absurd identity (identity_lt_freshIdentity shown).ne

end FileSystem

namespace ManagedFile

open FileSystem

variable
  {managed : ManagedFile}
  {files : FileSystem}
  {refusals : Refusals}
  {old new : Text}
  {report : UpdateReport}

/-- The update of a file that shows an old text writes a new text exactly if
it is another one. -/
structure UpdatesExactly
    (managed : ManagedFile)
    (files : FileSystem)
    (refusals : Refusals)
    (old new : Text)
    (report : UpdateReport) :
    Prop where
  /-- Only a text that differs is written. -/
  decides :
    managed.update files refusals =
      if new = old then
        (.ok report, files)
      else
        (managed.write new files refusals).map (Except.map fun _ => report) id
  /-- The file is another one exactly if its text is. -/
  succeeded :
    ∀ answer after,
      managed.update files refusals = (.ok answer, after) →
        answer = report ∧
          after.readText managed.path = .ok new ∧
          (after.identity? managed.path ≠ files.identity? managed.path ↔
            new ≠ old) ∧
          (new = old → after = files)
  /-- Only a write can fail, and then the old text stays. -/
  failed :
    ∀ fault after,
      managed.update files refusals = (.error fault, after) →
        new ≠ old ∧ after = files

theorem update_of_read
    {document : Document}
    (read : managed.read files = .ok document) :
    managed.update files refusals =
      if (document.merge managed.registry).2.isChanged then
        (managed.write (document.merge managed.registry).1.render files
            refusals).map
          (Except.map fun _ => (document.merge managed.registry).2) id
      else
        (.ok (document.merge managed.registry).2, files) := by
  unfold update
  rw [read]
  dsimp only
  split
  · rcases managed.write (document.merge managed.registry).1.render files
      refusals with ⟨_ | _, left⟩ <;> rfl
  · rfl

/-- An update that decides by the text rewrites the file exactly if the text
changes. -/
theorem updatesExactly_of_decides
    (named : files.HasNamedWorkDir)
    (readable : files.readText managed.path = .ok old)
    (decides :
      managed.update files refusals =
        if new = old then
          (.ok report, files)
        else
          (managed.write new files refusals).map (Except.map fun _ => report)
            id) :
    managed.UpdatesExactly files refusals old new report := by
  by_cases same : new = old
  · subst same
    have quiet : managed.update files refusals = (.ok report, files) := by
      rw [decides, if_pos rfl]
    constructor
    · exact decides
    · intro answer after done
      rw [quiet] at done
      cases done
      exact ⟨rfl, readable, by simp, fun _ => rfl⟩
    · intro fault after done
      rw [quiet] at done
      cases done
  · have tries := decides
    rw [if_neg same] at tries
    rcases managed.write_takesDocument new named refusals with
      ⟨refusal, refused⟩ | ⟨location, written, takes⟩
    · rw [refused] at tries
      constructor
      · exact decides
      · intro answer after done
        rw [tries] at done
        cases done
      · intro fault after done
        rw [tries] at done
        cases done
        exact ⟨same, rfl⟩
    · rw [written] at tries
      constructor
      · exact decides
      · intro answer after done
        rw [tries] at done
        cases done
        have another := takes.identity?_ne
        exact ⟨rfl, takes.replaces.reads, iff_of_true another same,
          fun equal => absurd equal same⟩
      · intro fault after done
        rw [tries] at done
        cases done

end ManagedFile

namespace Document

/-- What is reported as updated is what changes: the first region of a name,
the document, and the file that holds it. -/
theorem updated_iff_rewritten
    {text : Text}
    {document : Document}
    {sections : List Section}
    {registry : Registry}
    (read : parse text = .ok document)
    (accepted : Registry.ofSections sections = .ok registry)
    (noReturn :
      ∀ canonical ∈ registry.sections,
        ∀ line ∈ canonical.body.splitOn '\n', line.getLast? ≠ some '\r') :
    (∀ name,
      name ∈ (document.merge registry).2.updated ↔
        (document.merge registry).1.firstText? name ≠
          document.firstText? name) ∧
      ((document.merge registry).2.isChanged = true ↔
        (document.merge registry).1.render ≠ text) ∧
      ∀ (managed : ManagedFile) (files : FileSystem) (refusals : Refusals),
        managed.registry = registry →
          files.HasNamedWorkDir →
            files.readText managed.path = .ok text →
              managed.UpdatesExactly files refusals text
                (document.merge registry).1.render
                (document.merge registry).2 := by
  have sound := Registry.isSound_of_ofSections accepted
  have carries :
      ∀ canonical ∈ registry.sections,
        document.lineEnding.Carries canonical.body :=
    fun canonical member =>
      document.lineEnding.carries_of_splitOn (noReturn canonical member)
  have isChanged_iff := isChanged_iff_render_ne read sound carries
  refine ⟨fun name => mem_updated_iff_firstText?_ne read sound carries,
    isChanged_iff, ?_⟩
  rintro managed files refusals rfl named readable
  apply ManagedFile.updatesExactly_of_decides named readable
  rw [ManagedFile.update_of_read
    (ManagedFile.read_eq_ok_iff.mpr ⟨text, readable, read⟩)]
  by_cases same : (document.merge managed.registry).1.render = text
  · have unchanged := mt isChanged_iff.mp (not_not.mpr same)
    rw [if_neg unchanged, if_pos same]
  · rw [if_pos (isChanged_iff.mpr same), if_neg same]

/-- Breaks of both kinds, in a region that is current and in one that is not;
the regions of a repeated name and of no section stay. -/
theorem updated_iff_rewritten_mixed_breaks :
    ∃ (files after : FileSystem) (managed : ManagedFile) (old new : Text),
      files.readText managed.path = .ok old ∧
        old =
          ("<!-- BEGIN: a v1 -->\r\nold\n<!-- END: a -->\r\n"
            ++ "<!-- BEGIN: b v1 -->\nx\r\ny\n<!-- END: b -->\n"
            ++ "<!-- BEGIN: a v1 -->\nold\n<!-- END: a -->\n"
            ++ "<!-- BEGIN: c -->\r\n<!-- END: c -->").toList ∧
        managed.update files [] =
          (.ok ⟨["a".toList], ["c".toList], ["a".toList]⟩, after) ∧
        managed.UpdatesExactly files [] old new
          ⟨["a".toList], ["c".toList], ["a".toList]⟩ ∧
        new ≠ old ∧
        after.identity? managed.path ≠ files.identity? managed.path := by
  let old : Text :=
    ("<!-- BEGIN: a v1 -->\r\nold\n<!-- END: a -->\r\n"
      ++ "<!-- BEGIN: b v1 -->\nx\r\ny\n<!-- END: b -->\n"
      ++ "<!-- BEGIN: a v1 -->\nold\n<!-- END: a -->\n"
      ++ "<!-- BEGIN: c -->\r\n<!-- END: c -->").toList
  let report : UpdateReport := ⟨["a".toList], ["c".toList], ["a".toList]⟩
  let registry : Registry :=
    ⟨[⟨"a".toList, "2".toList, "new".toList⟩,
      ⟨"b".toList, "1".toList, "x\ny".toList⟩]⟩
  let managed : ManagedFile := ⟨"doc".toList, registry⟩
  let files : FileSystem :=
    ⟨[(["doc".toList, "work".toList], .file ⟨1, 0o644, .text old⟩)],
      ["work".toList]⟩
  have accepted :
      Registry.ofSections
          [⟨"a".toList, "2".toList, "new".toList⟩,
            ⟨"b".toList, "1".toList, "\nx\r\ny\r\n".toList⟩] =
        .ok registry :=
    rfl
  have noReturn :
      ∀ canonical ∈ registry.sections,
        ∀ line ∈ canonical.body.splitOn '\n', line.getLast? ≠ some '\r' := by
    decide
  have named : files.HasNamedWorkDir := by decide
  have answered : (managed.update files []).1 = .ok report := by
    decide +kernel
  rcases done : managed.update files [] with ⟨answer, after⟩
  rw [done] at answered
  obtain rfl : answer = .ok report := answered
  cases read : parse old with
  | error fault =>
      have readable : (parse old).toOption ≠ none := by decide +kernel
      rw [read] at readable
      exact absurd rfl readable
  | ok document =>
      rcases updated_iff_rewritten read accepted noReturn with
        ⟨-, isChanged, exactly⟩
      have updates := exactly managed files [] rfl named rfl
      rcases updates.succeeded report after done with
        ⟨same, -, rewritten, -⟩
      rw [← same] at updates isChanged
      have changed := isChanged.mp rfl
      exact ⟨files, after, managed, old, _, rfl, rfl, done, updates, changed,
        rewritten.mpr changed⟩

end Document

end RegionSync
