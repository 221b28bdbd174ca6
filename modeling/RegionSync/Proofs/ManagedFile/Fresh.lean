import RegionSync.Proofs.ManagedFile.Atomicity
import RegionSync.Proofs.Merge.Fresh

/-!
# Files with a fresh document

`init` writes a fresh document, whatever was there.  If line feeds carry the
bodies of the registry, the document is settled: the file can be read, a check
of it finds nothing, and an update has nothing to report and leaves the file
system as it is.
-/

namespace RegionSync

/-- No line of a stored body ends in a carriage return. -/
def Registry.IsReturnFree (registry : Registry) : Prop :=
  ∀ canonical ∈ registry.sections,
    ∀ line ∈ canonical.body.splitOn '\n', line.getLast? ≠ some '\r'

instance (registry : Registry) : Decidable registry.IsReturnFree :=
  inferInstanceAs
    (Decidable
      (∀ canonical ∈ registry.sections,
        ∀ line ∈ canonical.body.splitOn '\n', line.getLast? ≠ some '\r'))

namespace ManagedFile

variable
  {registry : Registry}
  {managed : ManagedFile}
  {files after : FileSystem}

theorem hasCrlf_placeholder : placeholder.hasCrlf = false := by
  decide +kernel

theorem isSettled_freshDocument
    (sound : registry.IsSound)
    (returnFree : registry.IsReturnFree) :
    (Document.ofSections registry.sections placeholder).IsSettled
      registry := by
  apply Document.isSettled_ofSections sound
  · exact fun canonical member =>
      LineEnding.lf.carries_of_splitOn (returnFree canonical member)
  · exact Document.isPlain_placeholder
  · exact hasCrlf_placeholder

theorem readText_of_init
    {force : Bool}
    {refusals : Refusals}
    (named : files.HasNamedWorkDir)
    (done : managed.init force files refusals = (.ok (), after)) :
    after.readText managed.path = .ok (freshText managed.registry) := by
  rcases managed.init_cases force named refusals with
    ⟨fault, failed⟩ | ⟨written, location, succeeded, replaces⟩
  · rw [done] at failed
    cases failed
  · rw [done] at succeeded
    obtain ⟨-, rfl⟩ := Prod.mk.inj succeeded
    exact replaces.reads

/-- There is nothing to do to a file with a settled document. -/
theorem check_and_update_of_isSettled
    {document : Document}
    (holds : files.readText managed.path = .ok document.render)
    (settled : document.IsSettled managed.registry) :
    managed.check files = .ok ⟨[], []⟩ ∧
      ∀ refusals,
        managed.update files refusals = (.ok ⟨[], [], []⟩, files) := by
  have read : managed.read files = .ok document :=
    read_eq_ok_iff.mpr ⟨document.render, holds, settled.reads⟩
  constructor
  · rw [check, read, ← settled.check_eq]
    rfl
  · intro refusals
    rw [update, read]
    dsimp only
    rw [settled.merge_eq]
    rfl

/-- A fresh document is settled, and where `init` succeeds the file holds its
text, so that there is nothing to do to the file, whatever the disk may refuse
then. -/
theorem init_writes_settled
    {sections : List Section}
    (accepted : Registry.ofSections sections = .ok registry) :
    (registry.IsReturnFree →
      (Document.ofSections registry.sections placeholder).IsSettled
        registry) ∧
    ∀ (path : Path) (force : Bool) (refusals : Refusals)
        (files after : FileSystem),
      files.HasNamedWorkDir →
        init ⟨path, registry⟩ force files refusals = (.ok (), after) →
          after.readText path = .ok (freshText registry) ∧
            (registry.IsReturnFree →
              check ⟨path, registry⟩ after = .ok ⟨[], []⟩ ∧
                ∀ later,
                  update ⟨path, registry⟩ after later =
                    (.ok ⟨[], [], []⟩, after)) := by
  have sound := Registry.isSound_of_ofSections accepted
  constructor
  · exact isSettled_freshDocument sound
  · intro path force refusals files after named done
    have holds := readText_of_init named done
    refine ⟨holds, fun returnFree => ?_⟩
    exact check_and_update_of_isSettled holds
      (isSettled_freshDocument sound returnFree)

/-- Two sections, one of them empty, in the place of a file that holds no
text. -/
theorem init_writes_settled_over_binary :
    ∃ (registry : Registry) (files after : FileSystem),
      Registry.ofSections
          [⟨"a".toList, "1".toList, "\n one\r\n\ntwo\n\n".toList⟩,
            ⟨"b".toList, "2".toList, []⟩] = .ok registry ∧
        registry.IsReturnFree ∧
        files.HasNamedWorkDir ∧
        init ⟨"doc".toList, registry⟩ true files [] = (.ok (), after) ∧
        (Document.ofSections registry.sections placeholder).IsSettled
          registry ∧
        after.readText "doc".toList = .ok (freshText registry) := by
  let registry : Registry :=
    ⟨[⟨"a".toList, "1".toList, " one\n\ntwo".toList⟩,
      ⟨"b".toList, "2".toList, []⟩]⟩
  have accepted :
      Registry.ofSections
          [⟨"a".toList, "1".toList, "\n one\r\n\ntwo\n\n".toList⟩,
            ⟨"b".toList, "2".toList, []⟩] = .ok registry :=
    rfl
  have returnFree : registry.IsReturnFree := by decide
  let files : FileSystem :=
    ⟨[(["doc".toList], .file ⟨7, 0o640, .binary [255] (by decide)⟩)], []⟩
  have named : files.HasNamedWorkDir := by decide
  have done :
      init ⟨"doc".toList, registry⟩ true files [] =
        (.ok (), (init ⟨"doc".toList, registry⟩ true files []).2) := by
    rfl
  have settles := init_writes_settled accepted
  exact ⟨registry, files, _, accepted, returnFree, named, done,
    settles.1 returnFree, (settles.2 _ _ _ _ _ named done).1⟩

end ManagedFile

end RegionSync
