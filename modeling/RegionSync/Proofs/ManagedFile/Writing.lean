import RegionSync.ManagedFile
import RegionSync.Proofs.FileSystem.Replacement

/-!
# Writing a document

`Replaces` says what a file system is after a document was written to a path:
one location holds a new file with the document, and every other location
shows what it showed before.  The location is that of the path itself or, if a
symbolic link stands there, of the file that the link leads to.

`write` replaces the document in this sense or leaves the file system as it
was: `replaceTarget_of_created` says what becomes of a temporary file that was
made, whichever step the disk refuses.  A symbolic link is resolved to the path
of the file behind it, so that the rename does not hit the link; that this path
leads back to the file is where the names of the working directory matter.
-/

namespace RegionSync

namespace FileSystem

/-- How the location that a document is written to comes from its path. -/
inductive IsTarget
    (before after : FileSystem)
    (path : Path)
    (location : Location) :
    Prop
  /-- No link stands at the path, and the document does now. -/
  | itself
      (noLink :
        ∀ place target, before.linkStat path ≠ .ok (place, .link target))
      (holds : ∃ file, after.linkStat path = .ok (location, .file file))
  /-- A link stands at the path and stays, and the document is where it
  leads. -/
  | behindLink
      (place : Location)
      (target : Path)
      (link : before.linkStat path = .ok (place, .link target))
      (canonical : before.canonicalPath path = .ok (absolutePath location))
      (stays : after.linkStat path = .ok (place, .link target))

/-- The permission bits that a document at a location gets: those of the file
that is there, or those of a new file where nothing is. -/
def IsModeFor (files : FileSystem) (location : Location) (mode : Nat) : Prop :=
  (files.entry? location = none ∧ mode = 0o644) ∨
    ∃ old, files.entry? location = some (.file old) ∧ mode = old.mode

/-- The file system `after` is `before` with a text as the document of a path,
in a file at a location. -/
structure Replaces
    (before after : FileSystem)
    (path : Path)
    (text : Text)
    (location : Location) :
    Prop where
  isTarget : before.IsTarget after path location
  written :
    ∃ identity mode,
      after.entry? location = some (.file ⟨identity, mode, .text text⟩) ∧
        before.IsModeFor location mode
  reads : after.readText path = .ok text
  others : ∀ other, other ≠ location → after.entry? other = before.entry? other
  sameWorkDir : after.workDir = before.workDir

section Document

variable
  {files : FileSystem}
  {last : LastLink}
  {path : Path}
  {text : Text}
  {location other : Location}

/-- The permission bits of a document that is written to a location. -/
def documentMode (files : FileSystem) (location : Location) : Nat :=
  ((files.fileAt? location).map File.mode).getD ManagedFile.newMode

/-- The new file of a document that is written to a location. -/
def documentFile
    (files : FileSystem)
    (location : Location)
    (text : Text) :
    File :=
  ⟨files.freshIdentity, files.documentMode location, .text text⟩

/-- The file system with a document at a location. -/
def withDocument
    (files : FileSystem)
    (location : Location)
    (text : Text) :
    FileSystem :=
  files.put location (.file (files.documentFile location text))

theorem isModeFor_documentMode
    (free : files.route? location = none) :
    files.IsModeFor location (files.documentMode location) := by
  unfold IsModeFor documentMode fileAt?
  cases found : files.entry? location with
  | none => exact Or.inl ⟨rfl, rfl⟩
  | some entry =>
      cases entry with
      | file old => exact Or.inr ⟨old, rfl, rfl⟩
      | directory =>
          rw [route?_eq_directory_iff.mpr found] at free
          cases free
      | link target =>
          rw [route?_eq_link_iff.mpr found] at free
          cases free

theorem entry?_withDocument
    (free : files.route? location = none) :
    entry? (files.withDocument location text) other =
      if other = location then
        some (.file (files.documentFile location text))
      else
        files.entry? other :=
  entry?_put (not_suffix_of_route?_eq_none free)

theorem Reaches.withDocument
    (free : files.route? location = none)
    (reaches : files.Reaches last path other) :
    (files.withDocument location text).Reaches last path other :=
  reaches.of_route?_eq (route?_put_file free) rfl

theorem statWith_withDocument
    (free : files.route? location = none)
    (reaches : files.Reaches last path location) :
    (files.withDocument location text).statWith last path =
      .ok (location, .file (files.documentFile location text)) := by
  refine statWith_eq_ok_iff.mpr ⟨reaches.withDocument free, ?_⟩
  rw [entry?_withDocument free, if_pos rfl]

theorem readText_withDocument
    (free : files.route? location = none)
    (reaches : files.Reaches .follow path location) :
    (files.withDocument location text).readText path = .ok text := by
  rw [readText, readContent, stat, statWith_withDocument free reaches]
  rfl

/-- The document of a path can be put at a location. -/
structure TakesDocument
    (files : FileSystem)
    (path : Path)
    (text : Text)
    (location : Location) :
    Prop where
  free : files.route? location = none
  reaches : files.Reaches .follow path location
  isTarget : files.IsTarget (files.withDocument location text) path location

/-- Putting a document where a path leads replaces the document of the
path. -/
theorem TakesDocument.replaces
    (takes : files.TakesDocument path text location) :
    files.Replaces (files.withDocument location text) path text location := by
  have free := takes.free
  constructor
  · exact takes.isTarget
  · refine ⟨files.freshIdentity, files.documentMode location, ?_,
      isModeFor_documentMode free⟩
    rw [entry?_withDocument free, if_pos rfl, documentFile]
  · exact readText_withDocument free takes.reaches
  · intro other different
    rw [entry?_withDocument free, if_neg different]
  · rfl

end Document

end FileSystem

/-- The steps in which a temporary file is filled, in their order. -/
def fillSteps : List TemporaryStep :=
  [.write, .setMode, .sync]

namespace Refusals

variable {refusals : Refusals}

/-- The first of some steps that the disk refuses, with its error. -/
def first? (refusals : Refusals) (steps : List TemporaryStep) :
    Option (TemporaryStep × FileError) :=
  steps.findSome? fun step => (refusals.lookup step).map (Prod.mk step)

theorem first?_cons
    (step : TemporaryStep)
    (rest : List TemporaryStep) :
    refusals.first? (step :: rest) =
      ((refusals.lookup step).map (Prod.mk step)).or (refusals.first? rest) := by
  unfold first?
  rw [List.findSome?_cons]
  cases (refusals.lookup step).map (Prod.mk step) <;> rfl

end Refusals

namespace ManagedFile

open FileSystem

variable
  {managed : ManagedFile}
  {files after : FileSystem}
  {target : Path}
  {location : Location}
  {refusals : Refusals}

/-! ## The parts of a write -/

/-- The target is the path, or the path of the file behind the link there. -/
theorem target_eq_ok
    (resolved : managed.target files = .ok target) :
    (target = managed.path ∧
      ∀ place link,
        files.linkStat managed.path ≠ .ok (place, .link link)) ∨
    ∃ place link,
      files.linkStat managed.path = .ok (place, .link link) ∧
        files.canonicalPath managed.path = .ok target := by
  unfold ManagedFile.target at resolved
  cases stands : files.linkStat managed.path with
  | error error =>
      rw [stands] at resolved
      cases error
      case notFound =>
        obtain rfl := Except.ok.inj resolved
        exact Or.inl ⟨rfl, nofun⟩
      all_goals cases resolved
  | ok found =>
      rw [stands] at resolved
      rcases found with ⟨place, _ | _ | link⟩
      case link =>
        cases canonical : files.canonicalPath managed.path with
        | error error =>
            rw [canonical] at resolved
            cases resolved
        | ok canonical =>
            rw [canonical] at resolved
            obtain rfl := Except.ok.inj resolved
            exact Or.inr ⟨place, link, rfl, rfl⟩
      all_goals
        obtain rfl := Except.ok.inj resolved
        exact Or.inl ⟨rfl, nofun⟩

/-- The permission bits are those of the file that is replaced. -/
theorem modeOf_eq
    (reaches : files.Reaches .follow target location) :
    managed.modeOf files target = .ok (files.documentMode location) := by
  unfold modeOf documentMode fileAt?
  cases found : files.entry? location with
  | none => 
      rw [stat, statWith_eq_notFound reaches found]
      rfl
  | some entry =>
      rw [stat, statWith_eq_ok_iff.mpr ⟨reaches, found⟩]
      cases entry with
      | file file => rfl
      | directory => rfl
      | link link => rfl

/-- A step that fails gives up the temporary file, and nothing is left of
it. -/
theorem giveUp_add
    {place : Location}
    {entry : Entry}
    (unused : place ∉ files.locations)
    (managed : ManagedFile)
    (step : TemporaryStep)
    (error : FileError) :
    managed.giveUp step error place (files.add place entry) =
      (.error (managed.fault (.temporary step) error), files) := by
  rw [giveUp, remove_add unused]

/-- A replacement for which a temporary file was made fails at the first step
of filling the file that the disk refuses, and at the rename otherwise.  If it
fails then the temporary file is gone. -/
theorem replaceTarget_of_created
    {place : Location}
    {created : FileSystem}
    (made : files.createTemporary target.parent refusals = .ok (place, created))
    (managed : ManagedFile)
    (mode : Nat)
    (text : Text) :
    managed.replaceTarget files target mode text refusals =
      match refusals.first? fillSteps with
      | some (step, error) =>
          (.error (managed.fault (.temporary step) error), files)
      | none =>
          match
            FileSystem.rename
              (files.add place
                (.file ⟨files.freshIdentity, mode, .text text⟩))
              place target refusals with
          | .error error =>
              (.error (managed.fault (.temporary .rename) error), files)
          | .ok renamed => (.ok (), renamed) := by
  rcases createTemporary_eq_ok made with ⟨unused, rfl⟩
  rw [replaceTarget, made, fillSteps]
  dsimp only
  rw [writeTemporary_add unused, Refusals.first?_cons, Refusals.permit]
  cases refusals.lookup .write with
  | some error => exact giveUp_add unused managed .write error
  | none =>
  simp only [Option.map_none, Option.none_or]
  rw [setTemporaryMode_add unused, Refusals.first?_cons, Refusals.permit]
  cases refusals.lookup .setMode with
  | some error => exact giveUp_add unused managed .setMode error
  | none =>
  simp only [Option.map_none, Option.none_or]
  rw [syncTemporary_add unused, Refusals.first?_cons, Refusals.permit]
  cases refusals.lookup .sync with
  | some error => exact giveUp_add unused managed .sync error
  | none =>
  dsimp only
  cases FileSystem.rename _ place target refusals with
  | error error => exact giveUp_add unused managed .rename error
  | ok renamed => rfl

/-- A replacement that fails names its step and changes nothing, and one that
does not puts the new file where its target leads. -/
theorem replaceTarget_cases
    (managed : ManagedFile)
    (files : FileSystem)
    (target : Path)
    (mode : Nat)
    (text : Text)
    (refusals : Refusals) :
    (∃ step error,
      managed.replaceTarget files target mode text refusals =
        (.error (managed.fault (.temporary step) error), files)) ∨
    ∃ location,
      managed.replaceTarget files target mode text refusals =
          (.ok (),
            files.put location
              (.file ⟨files.freshIdentity, mode, .text text⟩)) ∧
        files.entry? location ≠ some .directory ∧
        ∀ last,
          files.route? location = none ∨ last = .keep →
            files.Reaches last target location := by
  cases made : files.createTemporary target.parent refusals with
  | error error =>
      refine Or.inl ⟨.create, error, ?_⟩
      rw [replaceTarget, made]
  | ok created =>
      rcases created with ⟨place, created⟩
      have unused := (createTemporary_eq_ok made).1
      rw [replaceTarget_of_created made]
      cases refusals.first? fillSteps with
      | some refused => exact Or.inl ⟨refused.1, refused.2, rfl⟩
      | none =>
          dsimp only
          cases renamed : FileSystem.rename _ place target refusals with
          | error error => exact Or.inl ⟨.rename, error, rfl⟩
          | ok renamed =>
              rcases rename_add unused renamed with
                ⟨location, noDirectory, rfl, reaches⟩
              exact Or.inr ⟨location, rfl, noDirectory, reaches⟩

/-! ## A write -/

theorem route?_eq_none_of_not_link
    (noDirectory : files.entry? location ≠ some .directory)
    (noLink : ∀ link, files.route? location ≠ some (.link link)) :
    files.route? location = none := by
  cases found : files.route? location with
  | none => rfl
  | some entry =>
      cases entry with
      | file file => cases isRoute_of_route?_eq_some found
      | directory => exact absurd (route?_eq_directory_iff.mp found) noDirectory
      | link link => exact absurd found (noLink link)

/-- The location of a path at which no link stands is free for a document. -/
theorem route?_eq_none_of_itself
    {path : Path}
    (noLink :
      ∀ place link, files.linkStat path ≠ .ok (place, .link link))
    (noDirectory : files.entry? location ≠ some .directory)
    (reaches : files.Reaches .keep path location) :
    files.route? location = none := by
  apply route?_eq_none_of_not_link noDirectory
  intro link found
  apply noLink location link
  exact statWith_eq_ok_iff.mpr ⟨reaches, route?_eq_link_iff.mp found⟩

/-- The path without links of a path leads where that path leads. -/
theorem reaches_of_canonicalPath
    {path canonical : Path}
    (named : files.HasNamedWorkDir)
    (resolved : files.canonicalPath path = .ok canonical)
    (reaches : files.Reaches .keep canonical location) :
    canonical = absolutePath location ∧
      files.Reaches .follow path location ∧
      ∀ link, files.route? location ≠ some (.link link) := by
  rcases canonicalPath_eq_ok_iff.mp resolved with
    ⟨reached, entry, found, rfl⟩
  rcases statWith_eq_ok_iff.mp found with ⟨original, -⟩
  have base := isDirectory_origin files path
  have noLink := original.2.route?_ne_link base
  have inDirectory := original.2.isDirectory_tail base
  obtain rfl : location = reached :=
    eq_of_reaches_absolutePath (original.isName named) inDirectory noLink
      reaches
  exact ⟨rfl, original, noLink⟩

/-- A write that fails changes nothing, and one that does not puts the document
where its path leads. -/
theorem write_takesDocument
    (managed : ManagedFile)
    (text : Text)
    (named : files.HasNamedWorkDir)
    (refusals : Refusals) :
    (∃ fault, managed.write text files refusals = (.error fault, files)) ∨
    ∃ location,
      managed.write text files refusals =
          (.ok (), files.withDocument location text) ∧
        files.TakesDocument managed.path text location := by
  unfold write
  cases resolved : managed.target files with
  | error fault => exact Or.inl ⟨fault, rfl⟩
  | ok target =>
  cases readable : managed.modeOf files target with
  | error fault =>
      refine Or.inl ⟨fault, ?_⟩
      simp only [bind, Except.bind, readable]
  | ok mode =>
  simp only [bind, Except.bind, readable, pure, Except.pure]
  rcases managed.replaceTarget_cases files target mode text refusals with
    ⟨step, error, failed⟩ | ⟨location, replaced, noDirectory, reaches⟩
  · exact Or.inl ⟨_, failed⟩
  right
  refine ⟨location, ?_⟩
  have atPath := reaches .keep (Or.inr rfl)
  rcases target_eq_ok resolved with
    ⟨rfl, noLink⟩ | ⟨place, link, stands, canonical⟩
  · have free := route?_eq_none_of_itself noLink noDirectory atPath
    have followed := reaches .follow (Or.inl free)
    obtain rfl : files.documentMode location = mode := by
      rw [modeOf_eq followed] at readable
      exact Except.ok.inj readable
    refine ⟨replaced, free, followed, ?_⟩
    refine .itself noLink ⟨files.documentFile location text, ?_⟩
    exact statWith_withDocument free atPath
  · rcases reaches_of_canonicalPath named canonical atPath with
      ⟨rfl, followed, noLink⟩
    have free := route?_eq_none_of_not_link noDirectory noLink
    obtain rfl : files.documentMode location = mode := by
      rw [modeOf_eq (reaches .follow (Or.inl free))] at readable
      exact Except.ok.inj readable
    refine ⟨replaced, free, followed, ?_⟩
    refine .behindLink place link stands canonical ?_
    rcases statWith_eq_ok_iff.mp stands with ⟨reachesLink, found⟩
    have different : place ≠ location := by
      rintro rfl
      rw [route?_eq_link_iff.mpr found] at free
      cases free
    refine statWith_eq_ok_iff.mpr ⟨reachesLink.withDocument free, ?_⟩
    rw [entry?_withDocument free, if_neg different, found]

/-- A write that fails changes nothing, and one that does not replaces the
document. -/
theorem write_cases
    (managed : ManagedFile)
    (text : Text)
    (named : files.HasNamedWorkDir)
    (refusals : Refusals) :
    (∃ fault, managed.write text files refusals = (.error fault, files)) ∨
    ∃ after location,
      managed.write text files refusals = (.ok (), after) ∧
        files.Replaces after managed.path text location := by
  rcases managed.write_takesDocument text named refusals with
    failed | ⟨location, written, takes⟩
  · exact Or.inl failed
  · exact Or.inr ⟨_, location, written, takes.replaces⟩

end ManagedFile

end RegionSync
