import RegionSync.FileSystem.Walk

/-!
# What a walk depends on

`walk` computes where names lead, and fails in many ways.  `Leads` is the
relation behind it: the rules by which names lead from a directory to a
location.  It sees a file system only through `route?`, which shows the
directories and the links and no files, so two file systems that differ in
files alone lead every path to the same location.

A walk that succeeds arrives at the location that the rules give, and what it
reports is what the file system has there.
-/

namespace RegionSync

/-- Whether a path can go on through an entry. -/
def Entry.isRoute : Entry → Bool
  | .file _ => false
  | .directory => true
  | .link _ => true

namespace FileSystem

/-! ## Directories down from the root -/

/-- A location is a directory, and so is every one above it. -/
def IsDirectory (files : FileSystem) (location : Location) : Prop :=
  ∀ above, above <:+ location → files.entry? above = some .directory

theorem entry?_of_suffix_workDir
    {files : FileSystem}
    {location : Location}
    (above : location <:+ files.workDir) :
    files.entry? location = some .directory := by
  unfold entry?
  simp [above]

theorem isDirectory_workDir (files : FileSystem) :
    files.IsDirectory files.workDir :=
  fun _ above => entry?_of_suffix_workDir above

theorem isDirectory_root (files : FileSystem) : files.IsDirectory [] := by
  intro above suffix
  rw [List.suffix_nil.mp suffix]
  exact entry?_of_suffix_workDir (List.nil_suffix)

theorem isDirectory_origin (files : FileSystem) (path : Path) :
    files.IsDirectory (files.origin path) := by
  unfold origin
  split
  · exact isDirectory_root files
  · exact isDirectory_workDir files

theorem IsDirectory.entry?_eq
    {files : FileSystem}
    {location : Location}
    (directory : files.IsDirectory location) :
    files.entry? location = some .directory :=
  directory location List.suffix_rfl

theorem IsDirectory.tail
    {files : FileSystem}
    {location : Location}
    (directory : files.IsDirectory location) :
    files.IsDirectory location.tail :=
  fun above suffix => directory above (suffix.trans (List.tail_suffix _))

theorem IsDirectory.cons
    {files : FileSystem}
    {location : Location}
    {name : Text}
    (directory : files.IsDirectory location)
    (found : files.entry? (name :: location) = some .directory) :
    files.IsDirectory (name :: location) := by
  intro above suffix
  rcases List.suffix_cons_iff.mp suffix with rfl | below
  · exact found
  · exact directory above below

/-! ## Routes -/

/-- What a path can go on through at a location. -/
def route? (files : FileSystem) (location : Location) : Option Entry :=
  Option.filter Entry.isRoute <| files.entry? location

theorem route?_eq_directory_iff
    {files : FileSystem}
    {location : Location} :
    files.route? location = some .directory ↔
      files.entry? location = some .directory := by
  simp [route?, Option.filter_eq_some_iff, Entry.isRoute]

theorem route?_eq_link_iff
    {files : FileSystem}
    {location : Location}
    {target : Path} :
    files.route? location = some (.link target) ↔
      files.entry? location = some (.link target) := by
  simp [route?, Option.filter_eq_some_iff, Entry.isRoute]

theorem isRoute_of_route?_eq_some
    {files : FileSystem}
    {location : Location}
    {entry : Entry}
    (found : files.route? location = some entry) :
    entry.isRoute = true :=
  (Option.filter_eq_some_iff.mp found).2

/-- Where the directory is that the target of a link starts from. -/
def linkOrigin (directory : Location) (target : Path) : Location :=
  if target.isAbsolute then [] else directory

/-- The rules by which names lead from a directory to a location, through at
most a number of links. -/
inductive Leads (route? : Location → Option Entry) (last : LastLink) :
    Nat → Location → List Text → Location → Prop
  | nil (links : Nat) (directory : Location) :
      Leads route? last links directory [] directory
  | here {links directory rest location}
      (next : Leads route? last links directory rest location) :
      Leads route? last links directory (Path.here :: rest) location
  | above {links directory rest location}
      (next : Leads route? last links directory.tail rest location) :
      Leads route? last links directory (Path.above :: rest) location
  | directory {links directory name rest location}
      (named : name ≠ Path.here ∧ name ≠ Path.above)
      (short : name.byteSize ≤ nameLimit)
      (found : route? (name :: directory) = some .directory)
      (next : Leads route? last links (name :: directory) rest location) :
      Leads route? last links directory (name :: rest) location
  | stop {links directory name}
      (named : name ≠ Path.here ∧ name ≠ Path.above)
      (short : name.byteSize ≤ nameLimit)
      (noDirectory : route? (name :: directory) ≠ some .directory)
      (kept : route? (name :: directory) = none ∨ last = .keep) :
      Leads route? last links directory [name] (name :: directory)
  | link {links directory name rest target location}
      (named : name ≠ Path.here ∧ name ≠ Path.above)
      (short : name.byteSize ≤ nameLimit)
      (found : route? (name :: directory) = some (.link target))
      (followed : rest ≠ [] ∨ last = .follow)
      (next :
        Leads route? last links (linkOrigin directory target)
          (target.steps ++ rest) location) :
      Leads route? last (links + 1) directory (name :: rest) location

namespace Leads

variable
  {route? : Location → Option Entry}
  {last : LastLink}
  {links : Nat}
  {directory location : Location}
  {names : List Text}

theorem eq_of_here
    (leads : Leads route? last links directory [Path.here] location) :
    location = directory := by
  generalize names : [Path.here] = all at leads
  cases leads with
  | nil => cases names
  | here next =>
      obtain ⟨-, rfl⟩ := List.cons.inj names
      cases next
      rfl
  | above => cases names
  | directory named => exact absurd (List.cons.inj names).1.symm named.1
  | stop named => exact absurd (List.cons.inj names).1.symm named.1
  | link named => exact absurd (List.cons.inj names).1.symm named.1

/-- Names that lead to a directory may be followed by one more. -/
theorem snoc
    (leads :
      Leads route? .follow links directory (names ++ [Path.here]) location)
    {name : Text}
    (named : name ≠ Path.here ∧ name ≠ Path.above)
    (short : name.byteSize ≤ nameLimit)
    (noDirectory : route? (name :: location) ≠ some .directory)
    (kept : route? (name :: location) = none ∨ last = .keep) :
    Leads route? last links directory (names ++ [name])
      (name :: location) := by
  generalize extended : names ++ [Path.here] = all at leads
  induction leads generalizing names with
  | nil => simp at extended
  | here next ih =>
      rcases names with _ | ⟨first, rest⟩
      · obtain ⟨-, rfl⟩ := List.cons.inj extended
        cases next
        exact .stop named short noDirectory kept
      · obtain ⟨rfl, rfl⟩ := List.cons.inj extended
        exact .here (ih noDirectory kept rfl)
  | above next ih =>
      rcases names with _ | ⟨first, rest⟩
      · cases extended
      · obtain ⟨rfl, rfl⟩ := List.cons.inj extended
        exact .above (ih noDirectory kept rfl)
  | directory firstNamed firstShort found next ih =>
      rcases names with _ | ⟨first, rest⟩
      · obtain ⟨rfl, -⟩ := List.cons.inj extended
        exact absurd rfl firstNamed.1
      · obtain ⟨rfl, rfl⟩ := List.cons.inj extended
        exact .directory firstNamed firstShort found (ih noDirectory kept rfl)
  | stop lastNamed =>
      rcases names with _ | ⟨first, rest⟩
      · obtain ⟨rfl, -⟩ := List.cons.inj extended
        exact absurd rfl lastNamed.1
      · simp at extended
  | link firstNamed firstShort found followed next ih =>
      rcases names with _ | ⟨first, rest⟩
      · obtain ⟨rfl, -⟩ := List.cons.inj extended
        exact absurd rfl firstNamed.1
      · obtain ⟨rfl, rfl⟩ := List.cons.inj extended
        refine .link firstNamed firstShort found (Or.inl (by simp)) ?_
        have beyond := ih noDirectory kept (List.append_assoc _ rest _)
        rwa [List.append_assoc] at beyond

/-- Names lead where they say if no link stands on the way. -/
theorem eq_of_no_link
    (leads : Leads route? last links directory names location)
    (named : ∀ name ∈ names, name ≠ Path.here ∧ name ≠ Path.above)
    (noLink :
      ∀ front, front <+: names → ∀ target,
        route? (front.reverse ++ directory) ≠ some (.link target)) :
    location = names.reverse ++ directory := by
  induction leads with
  | nil => rfl
  | here => exact absurd rfl (named _ List.mem_cons_self).1
  | above => exact absurd rfl (named _ List.mem_cons_self).2
  | directory firstNamed short found next ih =>
      rw [List.reverse_cons, List.append_assoc]
      apply ih
      · intro name member
        exact named name (List.mem_cons_of_mem _ member)
      · intro front inFront
        have longer := noLink _ (List.cons_prefix_cons.mpr ⟨rfl, inFront⟩)
        rwa [List.reverse_cons, List.append_assoc] at longer
  | stop => rfl
  | @link _ _ name rest _ _ _ _ found =>
      have atLink := noLink [name] (by simp)
      exact absurd found (atLink _)

end Leads

/-! ## The location that a walk arrives at -/

/-- What a walk reports when it arrives at a location. -/
def arrivalAt (files : FileSystem) : Location → Arrival
  | [] => .found [] .directory
  | name :: directory =>
      match files.entry? (name :: directory) with
      | none => .vacant directory name
      | some entry => .found (name :: directory) entry

/-- The location of an arrival. -/
def Arrival.location : Arrival → Location
  | .found location _ => location
  | .vacant directory name => name :: directory

@[simp]
theorem location_arrivalAt (files : FileSystem) (location : Location) :
    (files.arrivalAt location).location = location := by
  rcases location with _ | ⟨name, directory⟩
  · rfl
  · cases found : files.entry? (name :: directory) <;>
      simp [arrivalAt, found, Arrival.location]

theorem IsDirectory.arrivalAt
    {files : FileSystem}
    {location : Location}
    (directory : files.IsDirectory location) :
    files.arrivalAt location = .found location .directory := by
  rcases location with _ | ⟨name, above⟩
  · rfl
  · simp [FileSystem.arrivalAt, directory.entry?_eq]

theorem isDirectory_linkOrigin
    {files : FileSystem}
    {directory : Location}
    (base : files.IsDirectory directory)
    (target : Path) :
    files.IsDirectory (linkOrigin directory target) := by
  unfold linkOrigin
  split
  · exact isDirectory_root files
  · exact base

/-- A walk stays among directories until its last name. -/
theorem Leads.isDirectory_tail
    {files : FileSystem}
    {last : LastLink}
    {links : Nat}
    {directory location : Location}
    {names : List Text}
    (base : files.IsDirectory directory)
    (leads : Leads files.route? last links directory names location) :
    files.IsDirectory location.tail := by
  induction leads with
  | nil => exact base.tail
  | here next ih => exact ih base
  | above next ih => exact ih base.tail
  | directory named short found next ih =>
      exact ih (base.cons (route?_eq_directory_iff.mp found))
  | stop => exact base
  | link named short found followed next ih =>
      exact ih (isDirectory_linkOrigin base _)

/-- A walk that follows links does not end at one. -/
theorem Leads.route?_ne_link
    {files : FileSystem}
    {links : Nat}
    {directory location : Location}
    {names : List Text}
    (base : files.IsDirectory directory)
    (leads : Leads files.route? .follow links directory names location)
    (target : Path) :
    files.route? location ≠ some (.link target) := by
  induction leads with
  | nil =>
      rw [route?_eq_directory_iff.mpr base.entry?_eq]
      nofun
  | here next ih => exact ih base
  | above next ih => exact ih base.tail
  | directory named short found next ih =>
      exact ih (base.cons (route?_eq_directory_iff.mp found))
  | stop named short noDirectory kept =>
      rcases kept with free | keeps
      · rw [free]
        nofun
      · cases keeps
  | link named short found followed next ih =>
      exact ih (isDirectory_linkOrigin base _)

/-- What a walk does behind a link. -/
def walkLink (files : FileSystem) (last : LastLink) :
    Nat → Location → List Text → Except FileError Arrival
  | 0 => fun _ _ => .error .filesystemLoop
  | links + 1 => files.walk last links

theorem walk_eq_walkNames
    (files : FileSystem)
    (last : LastLink)
    (links : Nat) :
    files.walk last links = files.walkNames last (files.walkLink last links) := by
  cases links <;> rfl

/-! ## The steps of a walk -/

section Steps

variable
  {files : FileSystem}
  {last : LastLink}
  {links : Nat}
  {directory : Location}
  {name : Text}
  {rest : List Text}

theorem walk_nil :
    files.walk last links directory [] =
      .ok (.found directory .directory) := by
  rw [walk_eq_walkNames, walkNames]

theorem walk_here :
    files.walk last links directory (Path.here :: rest) =
      files.walk last links directory rest := by
  rw [walk_eq_walkNames, walkNames, if_pos rfl]

theorem walk_above :
    files.walk last links directory (Path.above :: rest) =
      files.walk last links directory.tail rest := by
  rw [walk_eq_walkNames, walkNames, if_neg (by decide), if_pos rfl]

theorem walk_of_long
    (named : name ≠ Path.here ∧ name ≠ Path.above)
    (long : nameLimit < name.byteSize) :
    files.walk last links directory (name :: rest) =
      .error .invalidFilename := by
  rw [walk_eq_walkNames, walkNames, if_neg named.1, if_neg named.2,
    if_pos long]

variable
  (named : name ≠ Path.here ∧ name ≠ Path.above)
  (short : name.byteSize ≤ nameLimit)

include named short

theorem walk_cons :
    files.walk last links directory (name :: rest) =
      match files.entry? (name :: directory) with
      | none =>
          if rest.isEmpty then .ok (.vacant directory name)
          else .error .notFound
      | some .directory => files.walk last links (name :: directory) rest
      | some (.file file) =>
          if rest.isEmpty then .ok (.found (name :: directory) (.file file))
          else .error .notDirectory
      | some (.link target) =>
          if rest.isEmpty && last == .keep then
            .ok (.found (name :: directory) (.link target))
          else
            files.walkLink last links (linkOrigin directory target)
              (target.steps ++ rest) := by
  rw [walk_eq_walkNames, walkNames, if_neg named.1, if_neg named.2,
    if_neg (Nat.not_lt.mpr short)]
  rfl

theorem walk_directory
    (found : files.route? (name :: directory) = some .directory) :
    files.walk last links directory (name :: rest) =
      files.walk last links (name :: directory) rest := by
  rw [walk_cons named short, route?_eq_directory_iff.mp found]

theorem walk_link
    {target : Path}
    (found : files.route? (name :: directory) = some (.link target))
    (followed : rest ≠ [] ∨ last = .follow) :
    files.walk last links directory (name :: rest) =
      files.walkLink last links (linkOrigin directory target)
        (target.steps ++ rest) := by
  rw [walk_cons named short, route?_eq_link_iff.mp found]
  dsimp only
  rw [if_neg]
  rcases followed with more | rfl
  · simp [more]
  · simp

/-- A walk ends at its last name unless there is a directory, or a link to
follow. -/
theorem walk_stop
    (noDirectory : files.route? (name :: directory) ≠ some .directory)
    (kept : files.route? (name :: directory) = none ∨ last = .keep) :
    files.walk last links directory [name] =
      .ok (files.arrivalAt (name :: directory)) := by
  rw [walk_cons named short, arrivalAt]
  cases found : files.entry? (name :: directory) with
  | none => rfl
  | some entry =>
      cases entry with
      | file file => rfl
      | directory =>
          exact absurd (route?_eq_directory_iff.mpr found) noDirectory
      | link target =>
          rcases kept with free | rfl
          · rw [route?_eq_link_iff.mpr found] at free
            cases free
          · rfl

/-- No walk goes on through a file or through nothing. -/
theorem walk_stuck
    (free : files.route? (name :: directory) = none)
    (more : rest ≠ []) :
    ∃ error,
      files.walk last links directory (name :: rest) = .error error := by
  rw [walk_cons named short]
  cases found : files.entry? (name :: directory) with
  | none => exact ⟨.notFound, if_neg (by simpa using more)⟩
  | some entry =>
      cases entry with
      | file file => exact ⟨.notDirectory, if_neg (by simpa using more)⟩
      | directory =>
          rw [route?_eq_directory_iff.mpr found] at free
          cases free
      | link target =>
          rw [route?_eq_link_iff.mpr found] at free
          cases free

end Steps

/-! ## Walks and rules -/

section Arriving

variable
  {files : FileSystem}
  {last : LastLink}
  {links : Nat}
  {directory location : Location}
  {name : Text}
  {names rest : List Text}
  {arrival : Arrival}

/-- The rules lead to a location, and the walk reports what is there. -/
def Arrives
    (files : FileSystem)
    (last : LastLink)
    (links : Nat)
    (directory : Location)
    (names : List Text)
    (arrival : Arrival) :
    Prop :=
  ∃ location,
    Leads files.route? last links directory names location ∧
      arrival = files.arrivalAt location

/-- One name of a walk, with what the names and the links behind it do as
hypotheses. -/
theorem arrives_of_walk_cons
    (base : files.IsDirectory directory)
    (onward :
      ∀ {next},
        files.IsDirectory next →
        files.walk last links next rest = .ok arrival →
        files.Arrives last links next rest arrival)
    (behindLink :
      ∀ {fewer next names},
        links = fewer + 1 →
        files.IsDirectory next →
        files.walk last fewer next names = .ok arrival →
        files.Arrives last fewer next names arrival)
    (walked : files.walk last links directory (name :: rest) = .ok arrival) :
    files.Arrives last links directory (name :: rest) arrival := by
  by_cases isHere : name = Path.here
  · rw [isHere, walk_here] at walked
    rcases onward base walked with ⟨location, leads, arrives⟩
    exact ⟨location, isHere ▸ .here leads, arrives⟩
  by_cases isAbove : name = Path.above
  · rw [isAbove, walk_above] at walked
    rcases onward base.tail walked with ⟨location, leads, arrives⟩
    exact ⟨location, isAbove ▸ .above leads, arrives⟩
  have named := And.intro isHere isAbove
  by_cases isLong : nameLimit < name.byteSize
  · rw [walk_of_long named isLong] at walked
    cases walked
  have short := Nat.not_lt.mp isLong
  cases found : files.route? (name :: directory) with
  | none =>
      by_cases more : rest = []
      · subst more
        rw [walk_stop named short (by simp [found]) (Or.inl found)] at walked
        refine ⟨name :: directory, ?_, (Except.ok.inj walked).symm⟩
        exact .stop named short (by simp [found]) (Or.inl found)
      · rcases walk_stuck named short found more with ⟨error, stuck⟩
        rw [stuck] at walked
        cases walked
  | some entry =>
      cases entry with
      | file file => cases isRoute_of_route?_eq_some found
      | directory =>
          rw [walk_directory named short found] at walked
          rcases onward (base.cons (route?_eq_directory_iff.mp found))
              walked with
            ⟨location, leads, arrives⟩
          exact ⟨location, .directory named short found leads, arrives⟩
      | link target =>
          by_cases isKept : rest = [] ∧ last = .keep
          · rcases isKept with ⟨rfl, keeps⟩
            rw [walk_stop named short (by simp [found]) (Or.inr keeps)]
              at walked
            refine ⟨name :: directory, ?_, (Except.ok.inj walked).symm⟩
            exact .stop named short (by simp [found]) (Or.inr keeps)
          · have followed : rest ≠ [] ∨ last = .follow := by
              cases last with
              | follow => exact Or.inr rfl
              | keep => exact Or.inl fun isLast => isKept ⟨isLast, rfl⟩
            rw [walk_link named short found followed] at walked
            rcases links with _ | fewer
            · cases walked
            · rcases behindLink rfl
                  (isDirectory_linkOrigin base target) walked with
                ⟨location, leads, arrives⟩
              exact
                ⟨location, .link named short found followed leads, arrives⟩

theorem arrives_of_walk_nil
    (base : files.IsDirectory directory)
    (walked : files.walk last links directory [] = .ok arrival) :
    files.Arrives last links directory [] arrival := by
  rw [walk_nil] at walked
  obtain rfl := Except.ok.inj walked
  exact ⟨directory, .nil links directory, base.arrivalAt.symm⟩

/-- A walk that succeeds follows the rules. -/
theorem arrives_of_walk
    (base : files.IsDirectory directory)
    (walked : files.walk last links directory names = .ok arrival) :
    files.Arrives last links directory names arrival := by
  induction links generalizing directory names with
  | zero =>
      induction names generalizing directory with
      | nil => exact arrives_of_walk_nil base walked
      | cons name rest ih =>
          refine arrives_of_walk_cons base ih ?_ walked
          intro fewer _ _ absurdity
          cases absurdity
  | succ fewer behindLink =>
      induction names generalizing directory with
      | nil => exact arrives_of_walk_nil base walked
      | cons name rest ih =>
          refine arrives_of_walk_cons base ih ?_ walked
          intro other next names same nextBase nextWalked
          obtain rfl := Nat.succ.inj same
          exact behindLink nextBase nextWalked

/-- What the rules lead to, a walk arrives at. -/
theorem walk_of_leads
    (base : files.IsDirectory directory)
    (leads : Leads files.route? last links directory names location) :
    files.walk last links directory names =
      .ok (files.arrivalAt location) := by
  induction leads with
  | nil => rw [walk_nil, base.arrivalAt]
  | here next ih => rw [walk_here, ih base]
  | above next ih => rw [walk_above, ih base.tail]
  | directory named short found next ih =>
      rw [walk_directory named short found]
      exact ih (base.cons (route?_eq_directory_iff.mp found))
  | stop named short noDirectory kept =>
      exact walk_stop named short noDirectory kept
  | link named short found followed next ih =>
      rw [walk_link named short found followed]
      exact ih (isDirectory_linkOrigin base _)

end Arriving

end FileSystem

end RegionSync
