import RegionSync.Proofs.FileSystem.Reach

/-!
# What reading a path depends on

`Visits` collects the locations that are looked up while names are followed.
A walk cannot tell two file systems apart that show the same there; and of a
file it sees only that it is one, unless it ends at it.

So what a path reads does not depend on a location that is not looked up.  It
does not depend on what a file holds either, unless the path leads to that
file.
-/

namespace RegionSync.FileSystem

/-! ## The locations that are looked up -/

/-- While names are followed from a directory on, through at most a number of
links, a location is looked up. -/
inductive Visits (route? : Location → Option Entry) (last : LastLink) :
    Nat → Location → List Text → Location → Prop
  | here {links directory rest place}
      (next : Visits route? last links directory rest place) :
      Visits route? last links directory (Path.here :: rest) place
  | above {links directory rest place}
      (next : Visits route? last links directory.tail rest place) :
      Visits route? last links directory (Path.above :: rest) place
  | first {links directory name rest}
      (named : name ≠ Path.here ∧ name ≠ Path.above)
      (short : name.byteSize ≤ nameLimit) :
      Visits route? last links directory (name :: rest) (name :: directory)
  | directory {links directory name rest place}
      (named : name ≠ Path.here ∧ name ≠ Path.above)
      (short : name.byteSize ≤ nameLimit)
      (found : route? (name :: directory) = some .directory)
      (next : Visits route? last links (name :: directory) rest place) :
      Visits route? last links directory (name :: rest) place
  | link {links directory name rest target place}
      (named : name ≠ Path.here ∧ name ≠ Path.above)
      (short : name.byteSize ≤ nameLimit)
      (found : route? (name :: directory) = some (.link target))
      (followed : rest ≠ [] ∨ last = .follow)
      (next :
        Visits route? last links (linkOrigin directory target)
          (target.steps ++ rest) place) :
      Visits route? last (links + 1) directory (name :: rest) place

/-- A location is looked up when a path is followed. -/
def LooksAt
    (files : FileSystem)
    (last : LastLink)
    (path : Path)
    (place : Location) :
    Prop :=
  acceptPath path = .ok () ∧
    Visits files.route? last linkLimit (files.origin path) path.steps place

/-- What names lead to was looked up, unless it is a directory. -/
theorem Leads.visits
    {files : FileSystem}
    {last : LastLink}
    {links : Nat}
    {directory location : Location}
    {names : List Text}
    (base : files.IsDirectory directory)
    (noDirectory : files.entry? location ≠ some .directory)
    (leads : Leads files.route? last links directory names location) :
    Visits files.route? last links directory names location := by
  induction leads with
  | nil => exact absurd base.entry?_eq noDirectory
  | here next ih => exact .here (ih base noDirectory)
  | above next ih => exact .above (ih base.tail noDirectory)
  | directory named short found next ih =>
      have below := base.cons (route?_eq_directory_iff.mp found)
      exact .directory named short found (ih below noDirectory)
  | stop named short => exact .first named short
  | link named short found followed next ih =>
      exact .link named short found followed
        (ih (isDirectory_linkOrigin base _) noDirectory)

theorem Reaches.looksAt
    {files : FileSystem}
    {last : LastLink}
    {path : Path}
    {location : Location}
    (noDirectory : files.entry? location ≠ some .directory)
    (reaches : files.Reaches last path location) :
    files.LooksAt last path location :=
  ⟨reaches.1, reaches.2.visits (isDirectory_origin files path) noDirectory⟩

/-! ## Walks in two file systems -/

/-- Two entries that look the same to a walk that does not end there. -/
inductive AlikeEntries : Option Entry → Option Entry → Prop
  | same (entry : Option Entry) : AlikeEntries entry entry
  | files (old new : File) :
      AlikeEntries (some (.file old)) (some (.file new))

/-- Two walks that go the same way, and may end at different files. -/
inductive AlikeWalks :
    Except FileError Arrival → Except FileError Arrival → Prop
  | same (outcome : Except FileError Arrival) : AlikeWalks outcome outcome
  | files (location : Location) (old new : File) :
      AlikeWalks
        (.ok (.found location (.file old)))
        (.ok (.found location (.file new)))

section Walks

variable
  {files other : FileSystem}
  {last : LastLink}
  {links : Nat}
  {directory : Location}
  {name : Text}
  {names rest : List Text}

/-- One name of a walk, with what the names and the links behind it do as
hypotheses. -/
theorem alikeWalks_cons
    (alike :
      ∀ place,
        Visits files.route? last links directory (name :: rest) place →
          AlikeEntries (files.entry? place) (other.entry? place))
    (onward :
      ∀ {next},
        (∀ place,
          Visits files.route? last links next rest place →
            AlikeEntries (files.entry? place) (other.entry? place)) →
        AlikeWalks (files.walk last links next rest)
          (other.walk last links next rest))
    (behindLink :
      ∀ {fewer next names},
        links = fewer + 1 →
        (∀ place,
          Visits files.route? last fewer next names place →
            AlikeEntries (files.entry? place) (other.entry? place)) →
        AlikeWalks (files.walk last fewer next names)
          (other.walk last fewer next names)) :
    AlikeWalks (files.walk last links directory (name :: rest))
      (other.walk last links directory (name :: rest)) := by
  by_cases isHere : name = Path.here
  · subst isHere
    rw [walk_here, walk_here]
    exact onward fun place visits => alike place (.here visits)
  by_cases isAbove : name = Path.above
  · subst isAbove
    rw [walk_above, walk_above]
    exact onward fun place visits => alike place (.above visits)
  have named := And.intro isHere isAbove
  by_cases isLong : nameLimit < name.byteSize
  · rw [walk_of_long named isLong, walk_of_long named isLong]
    exact .same _
  have short := Nat.not_lt.mp isLong
  have first := alike (name :: directory) (.first named short)
  rw [walk_cons named short, walk_cons named short]
  generalize shown : files.entry? (name :: directory) = entry at first ⊢
  generalize other.entry? (name :: directory) = otherEntry at first ⊢
  cases first with
  | files old new =>
      by_cases more : rest = []
      · subst more
        exact .files (name :: directory) old new
      · have going : rest.isEmpty = false := by simpa using more
        rw [going]
        exact .same _
  | same =>
      rcases entry with _ | ⟨file⟩ | _ | target
      · exact .same _
      · exact .same _
      · have found := route?_eq_directory_iff.mpr shown
        exact onward fun place visits =>
          alike place (.directory named short found visits)
      · by_cases isKept : (rest.isEmpty && last == .keep) = true
        · dsimp only
          rw [if_pos isKept, if_pos isKept]
          exact .same _
        · dsimp only
          rw [if_neg isKept, if_neg isKept]
          have found := route?_eq_link_iff.mpr shown
          have followed : rest ≠ [] ∨ last = .follow := by
            cases last with
            | follow => exact Or.inr rfl
            | keep => exact Or.inl fun none => isKept (by simp [none])
          rcases links with _ | fewer
          · exact .same _
          · exact behindLink rfl fun place visits =>
              alike place (.link named short found followed visits)

/-- File systems that show the same at every location that is looked up, but
for what files hold, lead names the same way. -/
theorem alikeWalks_of_visits
    (alike :
      ∀ place,
        Visits files.route? last links directory names place →
          AlikeEntries (files.entry? place) (other.entry? place)) :
    AlikeWalks (files.walk last links directory names)
      (other.walk last links directory names) := by
  induction links generalizing directory names with
  | zero =>
      induction names generalizing directory with
      | nil =>
          rw [walk_nil, walk_nil]
          exact .same _
      | cons name rest ih =>
          refine alikeWalks_cons alike ih ?_
          intro fewer _ _ absurdity
          cases absurdity
  | succ fewer behindLink =>
      induction names generalizing directory with
      | nil =>
          rw [walk_nil, walk_nil]
          exact .same _
      | cons name rest ih =>
          refine alikeWalks_cons alike ih ?_
          intro other next names same
          obtain rfl := Nat.succ.inj same
          exact behindLink

end Walks

/-! ## Reading a path in two file systems -/

section Reading

variable
  {files other : FileSystem}
  {path : Path}
  {location : Location}

/-- Two file systems that show the same to the reader of a path: the same
entry at a location that is looked up, or some file where the path does not
end. -/
structure ShowsSame
    (files other : FileSystem)
    (path : Path) :
    Prop where
  sameWorkDir : other.workDir = files.workDir
  shown :
    ∀ place,
      files.LooksAt .follow path place →
        other.entry? place = files.entry? place ∨
          ¬files.Reaches .follow path place ∧
            AlikeEntries (files.entry? place) (other.entry? place)

theorem locate_of_accepted
    {last : LastLink}
    (accepted : acceptPath path = .ok ()) :
    files.locate last path =
      files.walk last linkLimit (files.origin path) path.steps := by
  unfold locate
  rw [accepted]
  rfl

theorem entry?_of_locate
    {last : LastLink}
    {entry : Entry}
    (located : files.locate last path = .ok (.found location entry)) :
    files.Reaches last path location ∧
      files.entry? location = some entry := by
  apply statWith_eq_ok_iff.mp
  rw [statWith, located]
  rfl

theorem ShowsSame.alikeWalks
    (same : files.ShowsSame other path) :
    AlikeWalks (files.locate .follow path) (other.locate .follow path) := by
  cases accepted : acceptPath path with
  | error error =>
      have refused (any : FileSystem) :
          any.locate .follow path = .error error := by
        unfold locate
        rw [accepted]
        rfl
      rw [refused files, refused other]
      exact .same _
  | ok accepts =>
      rw [locate_of_accepted accepted, locate_of_accepted accepted,
        origin, origin, same.sameWorkDir, ← origin]
      refine alikeWalks_of_visits fun place visits => ?_
      rcases same.shown place ⟨accepted, visits⟩ with equal | ⟨-, alike⟩
      · rw [equal]
        exact .same _
      · exact alike

/-- A path leads to the same in file systems that show it the same. -/
theorem ShowsSame.locate_eq
    (same : files.ShowsSame other path) :
    other.locate .follow path = files.locate .follow path := by
  have walks := same.alikeWalks
  generalize ends : files.locate .follow path = outcome at walks ⊢
  generalize otherEnds : other.locate .follow path = otherOutcome at walks ⊢
  cases walks with
  | same => rfl
  | files location old new =>
      -- The path ends at a file, so the file is the same one.
      rcases entry?_of_locate ends with ⟨reaches, found⟩
      have otherFound := (entry?_of_locate otherEnds).2
      have looks := reaches.looksAt (by simp [found])
      rcases same.shown location looks with equal | ⟨elsewhere, -⟩
      · rw [found, otherFound] at equal
        rw [Option.some.inj equal]
      · exact absurd reaches elsewhere

theorem ShowsSame.readText_eq
    (same : files.ShowsSame other path) :
    other.readText path = files.readText path := by
  unfold readText readContent stat statWith
  rw [same.locate_eq]

/-- Two file systems that may differ in what one location shows. -/
structure DiffersAt
    (files other : FileSystem)
    (location : Location) :
    Prop where
  sameWorkDir : other.workDir = files.workDir
  elsewhere :
    ∀ place, place ≠ location → other.entry? place = files.entry? place

/-- What a path reads does not depend on a location that it does not look
at. -/
theorem DiffersAt.showsSame_of_not_looksAt
    (differs : files.DiffersAt other location)
    (notSeen : ¬files.LooksAt .follow path location) :
    files.ShowsSame other path := by
  constructor
  · exact differs.sameWorkDir
  · intro place looks
    left
    apply differs.elsewhere
    rintro rfl
    exact notSeen looks

/-- What a path reads does not depend on what a file holds that it does not
lead to. -/
theorem DiffersAt.showsSame_of_not_reaches
    (differs : files.DiffersAt other location)
    {old new : File}
    (before : files.entry? location = some (.file old))
    (after : other.entry? location = some (.file new))
    (elsewhere : ¬files.Reaches .follow path location) :
    files.ShowsSame other path := by
  constructor
  · exact differs.sameWorkDir
  · intro place looks
    by_cases here : place = location
    · subst here
      rw [before, after]
      exact Or.inr ⟨elsewhere, .files old new⟩
    · exact Or.inl (differs.elsewhere place here)

theorem readText_of_locate_eq_error
    {error : FileError}
    (lost : files.locate .follow path = .error error) :
    files.readText path = .error error := by
  unfold readText readContent stat statWith
  rw [lost]
  rfl

theorem DiffersAt.arrivalAt_eq
    (differs : files.DiffersAt other location)
    {place : Location}
    (elsewhere : place ≠ location) :
    other.arrivalAt place = files.arrivalAt place := by
  rcases place with _ | ⟨name, directory⟩
  · rfl
  · simp only [arrivalAt, differs.elsewhere _ elsewhere]

theorem DiffersAt.route?_eq
    (differs : files.DiffersAt other location)
    (free : files.route? location = none)
    (otherFree : other.route? location = none) :
    other.route? = files.route? := by
  funext place
  by_cases here : place = location
  · rw [here, free, otherFree]
  · unfold route?
    rw [differs.elsewhere place here]

/-- A file that appears or vanishes where a path does not lead can only turn
one failure into another. -/
theorem DiffersAt.readText_eq_or_fails
    (differs : files.DiffersAt other location)
    (free : files.route? location = none)
    (otherFree : other.route? location = none)
    (elsewhere : ¬files.Reaches .follow path location) :
    other.readText path = files.readText path ∨
      (∃ error, files.readText path = .error error) ∧
        ∃ error, other.readText path = .error error := by
  have sameRoutes := differs.route?_eq free otherFree
  cases located : files.locate .follow path with
  | ok arrival =>
      rcases locate_eq_ok_iff.mp located with ⟨place, reaches, rfl⟩
      have different : place ≠ location := by
        rintro rfl
        exact elsewhere reaches
      have otherLocated :=
        locate_eq_ok_iff.mpr
          ⟨place, reaches.of_route?_eq sameRoutes differs.sameWorkDir, rfl⟩
      rw [differs.arrivalAt_eq different] at otherLocated
      left
      unfold readText readContent stat statWith
      rw [located, otherLocated]
  | error error =>
      cases otherLocated : other.locate .follow path with
      | error otherError =>
          exact Or.inr
            ⟨⟨error, readText_of_locate_eq_error located⟩,
              ⟨otherError, readText_of_locate_eq_error otherLocated⟩⟩
      | ok arrival =>
          rcases locate_eq_ok_iff.mp otherLocated with ⟨place, reaches, -⟩
          have back :=
            reaches.of_route?_eq sameRoutes.symm differs.sameWorkDir.symm
          rw [locate_eq_ok_iff.mpr ⟨place, back, rfl⟩] at located
          cases located

end Reading

end RegionSync.FileSystem
