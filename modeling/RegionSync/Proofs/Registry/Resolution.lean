import Mathlib.Control.Monad.Basic
import RegionSync.Proofs.FileSystem.Footprint
import RegionSync.Proofs.FileSystem.Replacement
import RegionSync.Proofs.Outcome
import RegionSync.Proofs.Registry.Stored
import RegionSync.Registry.Resolution

/-!
# Which registry is used

The fallback to the builtin registry looks for a missing file anywhere in the
chain of causes of a fault.  `mem_chain_iff` shows that only a path at which
there is nothing to read puts it there: whatever a file holds, the causes that
come from its content are words.  So a registry of the user that cannot be
used is never passed over.

A path that was asked for decides alone.  The user's registry does not matter
then, unless the path itself leads to it.

Wherever the registry comes from, it is sound: the builtin one is read from a
text as the others are.
-/

namespace RegionSync

namespace LoadFault

variable {fault : LoadFault} {error : FileError}

/-- An error of the file system is a cause exactly if reading failed with
it. -/
theorem mem_chain_iff :
    .file error ∈ fault.chain ↔ ∃ path, fault = .read path error := by
  cases fault with
  | read path other => simp [chain, eq_comm]
  | content path text fault => simp [chain]

theorem isNotFound_iff :
    fault.isNotFound = true ↔ ∃ path, fault = .read path .notFound := by
  rw [← mem_chain_iff, isNotFound, List.any_eq_true]
  constructor
  · rintro ⟨cause, member, same⟩
    rwa [← eq_of_beq same]
  · intro member
    exact ⟨_, member, beq_self_eq_true _⟩

end LoadFault

namespace Registry

variable
  {files other : FileSystem}
  {path : Path}
  {text : Text}
  {registry : Registry}
  {fault : LoadFault}
  {error : FileError}

theorem load_eq_read_iff
    {named : Path} :
    load files path = .error (.read named error) ↔
      named = path ∧ files.readText path = .error error := by
  unfold load
  cases files.readText path with
  | error other => simp [eq_comm]
  | ok text => simp [Except.mapError_eq_error_iff]

/-- A missing file is a cause of a failed load exactly if reading the path
fails for it. -/
theorem notFound_mem_chain_iff
    (failed : load files path = .error fault) :
    .file .notFound ∈ fault.chain ↔
      files.readText path = .error .notFound := by
  rw [LoadFault.mem_chain_iff]
  constructor
  · rintro ⟨named, rfl⟩
    exact (load_eq_read_iff.mp failed).2
  · intro missing
    have read := load_eq_read_iff.mpr ⟨rfl, missing⟩
    rw [failed] at read
    exact ⟨path, Except.error.inj read⟩

/-! ## A path that was asked for -/

/-- What a load gives depends on the text that its path reads. -/
theorem load_congr
    (same : other.readText path = files.readText path) :
    load other path = load files path := by
  rw [load, load, same]

/-- A path that was asked for decides alone which registry is used. -/
structure ExplicitDecides (files : FileSystem) (path : Path) : Prop where
  loads :
    ∀ userPath, resolve files userPath (some path) = load files path
  /-- A location that the path does not look at does not matter, whatever it
  shows. -/
  unseen :
    ∀ userPath otherUser other location,
      files.DiffersAt other location →
        ¬files.LooksAt .follow path location →
          resolve other otherUser (some path) =
            resolve files userPath (some path)
  /-- What a file holds does not matter if the path does not lead to it. -/
  unread :
    ∀ userPath otherUser other location old new,
      files.DiffersAt other location →
        files.entry? location = some (.file old) →
          other.entry? location = some (.file new) →
            ¬files.Reaches .follow path location →
              resolve other otherUser (some path) =
                resolve files userPath (some path)
  /-- Nor does it matter whether there is a file, except that a path that goes
  on behind it fails in another way. -/
  passed :
    ∀ userPath otherUser other location,
      files.DiffersAt other location →
        files.route? location = none →
          other.route? location = none →
            ¬files.Reaches .follow path location →
              resolve other otherUser (some path) =
                  resolve files userPath (some path) ∨
                (∃ error,
                  resolve files userPath (some path) =
                    .error (.read path error)) ∧
                  ∃ error,
                    resolve other otherUser (some path) =
                      .error (.read path error)

theorem explicitDecides
    (files : FileSystem)
    (path : Path) :
    ExplicitDecides files path := by
  constructor
  · intro userPath
    rfl
  · intro userPath otherUser other location differs notSeen
    exact load_congr (differs.showsSame_of_not_looksAt notSeen).readText_eq
  · intro userPath otherUser other location old new differs before after
      elsewhere
    exact load_congr
      (differs.showsSame_of_not_reaches before after elsewhere).readText_eq
  · intro userPath otherUser other location differs free otherFree elsewhere
    rcases differs.readText_eq_or_fails free otherFree elsewhere with
      same | ⟨⟨error, fails⟩, ⟨otherError, otherFails⟩⟩
    · exact Or.inl (load_congr same)
    · exact Or.inr
        ⟨⟨error, load_eq_read_iff.mpr ⟨rfl, fails⟩⟩,
          ⟨otherError, load_eq_read_iff.mpr ⟨rfl, otherFails⟩⟩⟩

/-! ## The user's registry -/

/-- Where no path was asked for, the user's registry decides, unless there is
none. -/
structure UserDecides (files : FileSystem) (path : Path) : Prop where
  absent :
    files.readText path = .error .notFound →
      resolve files (some path) none = .ok builtin
  present :
    files.readText path ≠ .error .notFound →
      resolve files (some path) none = load files path
  /-- It is told from the causes whether there is none. -/
  chained :
    ∀ fault,
      load files path = .error fault →
        (.file .notFound ∈ fault.chain ↔
          files.readText path = .error .notFound)
  /-- The user's registry is passed over in no other state. -/
  passesOver :
    resolve files (some path) none ≠ load files path ↔
      files.readText path = .error .notFound

theorem resolve_of_absent
    (missing : files.readText path = .error .notFound) :
    resolve files (some path) none = .ok builtin := by
  have failed : load files path = .error (.read path .notFound) :=
    load_eq_read_iff.mpr ⟨rfl, missing⟩
  simp only [resolve, failed,
    if_pos (LoadFault.isNotFound_iff.mpr ⟨path, rfl⟩)]

theorem resolve_of_present
    (present : files.readText path ≠ .error .notFound) :
    resolve files (some path) none = load files path := by
  cases loaded : load files path with
  | ok registry => simp only [resolve, loaded]
  | error fault =>
      have otherFault : ¬fault.isNotFound = true := by
        intro isNotFound
        rcases LoadFault.isNotFound_iff.mp isNotFound with ⟨named, rfl⟩
        exact present (load_eq_read_iff.mp loaded).2
      simp only [resolve, loaded, if_neg otherFault]

theorem userDecides
    (files : FileSystem)
    (path : Path) :
    UserDecides files path := by
  constructor
  · exact resolve_of_absent
  · exact resolve_of_present
  · exact fun fault => notFound_mem_chain_iff
  · constructor
    · intro passed
      by_cases missing : files.readText path = .error .notFound
      · exact missing
      · exact absurd (resolve_of_present missing) passed
    · intro missing
      rw [resolve_of_absent missing, load_eq_read_iff.mpr ⟨rfl, missing⟩]
      nofun

/-! ## What is used -/

theorem ofText_eq_ok_iff :
    ofText text = .ok registry ↔
      ∃ sections,
        Configuration.ofText text = .ok sections ∧
          ofSections sections = .ok registry := by
  unfold ofText
  simp only [Except.bind_eq_ok_iff, Except.mapError_eq_ok_iff]

theorem isSound_of_ofText
    (accepted : ofText text = .ok registry) :
    registry.IsSound := by
  rcases ofText_eq_ok_iff.mp accepted with ⟨sections, -, made⟩
  exact isSound_of_ofSections made

theorem isSound_of_load
    (loaded : load files path = .ok registry) :
    registry.IsSound := by
  unfold load at loaded
  split at loaded
  · cases loaded
  · exact isSound_of_ofText (Except.mapError_eq_ok_iff.mp loaded)

/-- Every registry that is used is sound. -/
theorem isSound_of_resolve
    {userPath explicit : Option Path}
    (used : resolve files userPath explicit = .ok registry) :
    registry.IsSound := by
  cases explicit with
  | some path => exact isSound_of_load used
  | none =>
      have builtinSound := isSound_of_ofText ofText_builtin
      cases userPath with
      | none => exact Except.ok.inj used ▸ builtinSound
      | some path =>
          by_cases missing : files.readText path = .error .notFound
          · rw [resolve_of_absent missing] at used
            exact Except.ok.inj used ▸ builtinSound
          · rw [resolve_of_present missing] at used
            exact isSound_of_load used

/-- A registry that was asked for is used or refused whatever the user has.
Otherwise the user's own is used or refused, and only where there is none to
read the builtin one is used. -/
theorem resolve_masks_nothing (files : FileSystem) :
    (∀ path, ExplicitDecides files path) ∧
      (∀ path, UserDecides files path) ∧
      resolve files none none = .ok builtin :=
  ⟨explicitDecides files, userDecides files, rfl⟩

/-- A registry of another format is the user's own, and stays an error when
it is emptied; the file that was asked for is used in both cases. -/
theorem resolve_masks_nothing_other_format :
    ∃ (files other : FileSystem) (user asked : Path),
      files.readText user = .ok "version: 2\n".toList ∧
        resolve files (some user) none =
          .error (.content user "version: 2\n".toList .unreadable) ∧
        other.readText user = .ok [] ∧
        resolve other (some user) none =
          .error (.content user [] .unreadable) ∧
        resolve files none (some asked) = .ok ⟨[]⟩ ∧
        resolve other (some user) (some asked) =
          resolve files none (some asked) := by
  let files : FileSystem :=
    ⟨[(["claude.yaml".toList, "work".toList],
        .file ⟨1, 0o644, .text "version: 2\n".toList⟩),
      (["registry.yaml".toList, "work".toList],
        .file ⟨2, 0o644, .text "version: 1\nsections: []\n".toList⟩)],
      ["work".toList]⟩
  let other : FileSystem :=
    files.put ["claude.yaml".toList, "work".toList]
      (.file ⟨1, 0o644, .text []⟩)
  have masksNothing := resolve_masks_nothing files
  have user := (masksNothing.2.1 "claude.yaml".toList).present (by decide)
  have otherUser :=
    ((resolve_masks_nothing other).2.1 "claude.yaml".toList).present
      (by decide)
  have asked := masksNothing.1 "registry.yaml".toList
  have differs :
      files.DiffersAt other ["claude.yaml".toList, "work".toList] := by
    refine ⟨rfl, fun place different => ?_⟩
    rw [FileSystem.entry?_put (by decide), if_neg different]
  have elsewhere :
      ¬files.Reaches .follow "registry.yaml".toList
        ["claude.yaml".toList, "work".toList] := by
    intro reaches
    have located := FileSystem.locate_eq_ok_iff.mpr ⟨_, reaches, rfl⟩
    revert located
    decide
  refine ⟨files, other, "claude.yaml".toList, "registry.yaml".toList, rfl,
    user.trans ?_, rfl, otherUser.trans ?_, (asked.loads none).trans ?_, ?_⟩
  · decide +kernel
  · decide +kernel
  · decide +kernel
  · exact asked.unread none _ other _ _ _ differs rfl rfl elsewhere

end Registry

end RegionSync
