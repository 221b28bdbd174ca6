import RegionSync.FileSystem.Access
import RegionSync.FileSystem.Rename
import RegionSync.Proofs.FileSystem.Walk
import RegionSync.Proofs.Text.RawLine

/-!
# The location that a path leads to

`Reaches` says that a path leads to a location, where something may stand or
not.  `stat` and `linkStat` report what stands there, and a rename puts a file
there, so that what was renamed to a path is what the path then shows.

A location has a path of its own, `absolutePath`, which goes through no link.
It leads back to the location if no name on the way is a dot, two dots, empty,
or holds a slash.  Names that come from paths are such names, so it is enough
to ask this of the working directory.
-/

namespace RegionSync

namespace FileSystem

/-! ## The location that a path leads to -/

section Paths

variable
  {files other : FileSystem}
  {last : LastLink}
  {path : Path}
  {location another : Location}
  {entry : Entry}

/-- A path leads to a location, where there may be nothing. -/
def Reaches
    (files : FileSystem)
    (last : LastLink)
    (path : Path)
    (location : Location) :
    Prop :=
  acceptPath path = .ok () ∧
    Leads files.route? last linkLimit (files.origin path) path.steps location

/-- Files do not matter to where a path leads. -/
theorem Reaches.of_route?_eq
    (sameRoutes : other.route? = files.route?)
    (sameWorkDir : other.workDir = files.workDir)
    (reaches : files.Reaches last path location) :
    other.Reaches last path location := by
  refine ⟨reaches.1, ?_⟩
  rw [sameRoutes, origin, sameWorkDir]
  exact reaches.2

theorem locate_eq_ok_iff
    {arrival : Arrival} :
    files.locate last path = .ok arrival ↔
      ∃ location,
        files.Reaches last path location ∧
          arrival = files.arrivalAt location := by
  have base := isDirectory_origin files path
  unfold locate Reaches
  cases accepted : acceptPath path with
  | error error =>
      constructor
      · intro located
        cases located
      · rintro ⟨_, ⟨fine, _⟩, _⟩
        cases fine
  | ok accepted =>
      constructor
      · intro walked
        rcases arrives_of_walk base walked with ⟨location, leads, arrives⟩
        exact ⟨location, ⟨rfl, leads⟩, arrives⟩
      · rintro ⟨location, ⟨_, leads⟩, rfl⟩
        exact walk_of_leads base leads

theorem arrivalAt_of_entry?_eq_some
    (found : files.entry? location = some entry) :
    files.arrivalAt location = .found location entry := by
  rcases location with _ | ⟨name, directory⟩
  · rw [(isDirectory_root files).entry?_eq] at found
    obtain rfl := Option.some.inj found
    rfl
  · simp [arrivalAt, found]

theorem arrivalAt_of_entry?_eq_none
    (free : files.entry? location = none) :
    ∃ directory name,
      location = name :: directory ∧
        files.arrivalAt location = .vacant directory name := by
  rcases location with _ | ⟨name, directory⟩
  · rw [(isDirectory_root files).entry?_eq] at free
    cases free
  · exact ⟨directory, name, rfl, by simp [arrivalAt, free]⟩

theorem statWith_eq_ok_iff :
    files.statWith last path = .ok (location, entry) ↔
      files.Reaches last path location ∧
        files.entry? location = some entry := by
  constructor
  · intro stands
    unfold statWith at stands
    cases located : files.locate last path with
    | error error =>
        rw [located] at stands
        cases stands
    | ok arrival =>
        rw [located] at stands
        rcases locate_eq_ok_iff.mp located with ⟨reached, reaches, rfl⟩
        cases found : files.entry? reached with
        | none =>
            rcases arrivalAt_of_entry?_eq_none found with ⟨_, _, _, vacant⟩
            rw [vacant] at stands
            cases stands
        | some entry =>
            rw [arrivalAt_of_entry?_eq_some found] at stands
            obtain ⟨rfl, rfl⟩ := Prod.mk.inj (Except.ok.inj stands)
            exact ⟨reaches, found⟩
  · rintro ⟨reaches, found⟩
    have located := locate_eq_ok_iff.mpr ⟨location, reaches, rfl⟩
    rw [arrivalAt_of_entry?_eq_some found] at located
    rw [statWith, located]
    rfl

theorem statWith_eq_notFound
    (reaches : files.Reaches last path location)
    (free : files.entry? location = none) :
    files.statWith last path = .error .notFound := by
  have located := locate_eq_ok_iff.mpr ⟨location, reaches, rfl⟩
  rcases arrivalAt_of_entry?_eq_none free with ⟨_, _, _, vacant⟩
  rw [vacant] at located
  rw [statWith, located]
  rfl

theorem canonicalPath_eq_ok_iff
    {canonical : Path} :
    files.canonicalPath path = .ok canonical ↔
      ∃ location entry,
        files.stat path = .ok (location, entry) ∧
          absolutePath location = canonical := by
  unfold canonicalPath
  cases files.stat path with
  | error error =>
      constructor
      · intro resolved
        cases resolved
      · rintro ⟨_, _, found, _⟩
        cases found
  | ok found =>
      constructor
      · intro resolved
        exact ⟨found.1, found.2, rfl, Except.ok.inj resolved⟩
      · rintro ⟨location, entry, same, rfl⟩
        obtain rfl := Except.ok.inj same
        rfl

/-- The parts of a path to which a file can be renamed. -/
structure IsDestination
    (files : FileSystem)
    (path : Path)
    (names : List Text)
    (name : Text)
    (directory : Location) :
    Prop where
  accepted : acceptPath path = .ok ()
  steps : path.steps = names ++ [name]
  named : name ≠ Path.here ∧ name ≠ Path.above
  short : name.byteSize ≤ nameLimit
  walked :
    files.walk .follow linkLimit (files.origin path) (names ++ [Path.here]) =
      .ok (.found directory .directory)
  noDirectory : files.entry? (name :: directory) ≠ some .directory

theorem exists_of_destination
    (found : files.destination path = .ok location) :
    ∃ names name directory,
      location = name :: directory ∧
        files.IsDestination path names name directory := by
  unfold destination at found
  cases accepted : acceptPath path with
  | error error =>
      rw [accepted] at found
      cases found
  | ok fine =>
      rw [accepted] at found
      cases reversed : path.names.reverse with
      | nil =>
          simp only [reversed] at found
          cases found
      | cons name above =>
          simp only [reversed] at found
          have names : path.names = above.reverse ++ [name] := by
            rw [← List.reverse_reverse path.names, reversed,
              List.reverse_cons]
          cases walked :
              files.walk .follow linkLimit (files.origin path)
                (above.reverse ++ [Path.here]) with
          | error error =>
              rw [walked] at found
              cases found
          | ok arrival =>
              rw [walked] at found
              rcases arrival with ⟨directory, _ | _ | _⟩ | _
              case found.directory =>
                simp only [bind, Except.bind] at found
                split at found
                case isTrue => cases found
                case isFalse notDots =>
                split at found
                case isTrue => cases found
                case isFalse notLong =>
                split at found
                case isTrue => cases found
                case isFalse noSlash =>
                split at found
                case isTrue => cases found
                case isFalse noDirectory =>
                obtain rfl := Except.ok.inj found
                refine ⟨above.reverse, name, directory, rfl, ?_⟩
                exact
                  { accepted := accepted
                    steps := by rw [Path.steps, if_neg noSlash, names]
                    named := by simpa using notDots
                    short := Nat.not_lt.mp notLong
                    walked := walked
                    noDirectory := noDirectory }
              all_goals cases found

/-- A rename puts a file where its path leads. -/
theorem reaches_of_destination
    (found : files.destination path = .ok location)
    (kept : files.route? location = none ∨ last = .keep) :
    files.Reaches last path location := by
  rcases exists_of_destination found with
    ⟨names, name, directory, rfl, destination⟩
  have base := isDirectory_origin files path
  rcases arrives_of_walk base destination.walked with
    ⟨reached, leads, arrives⟩
  have same := congrArg Arrival.location arrives
  rw [location_arrivalAt] at same
  obtain rfl : directory = reached := same
  refine ⟨destination.accepted, ?_⟩
  rw [destination.steps]
  apply leads.snoc destination.named destination.short _ kept
  rw [Ne, route?_eq_directory_iff]
  exact destination.noDirectory

end Paths

end FileSystem

/-! ## The path of a location -/

namespace Path

/-- What stands between two slashes and is not empty. -/
def IsStep (name : Text) : Prop :=
  name ≠ [] ∧ '/' ∉ name

/-- A name that an entry can have. -/
structure IsName (name : Text) : Prop where
  step : IsStep name
  notDots : name ≠ here ∧ name ≠ above

instance (name : Text) : Decidable (IsName name) :=
  decidable_of_iff
    ((name ≠ [] ∧ '/' ∉ name) ∧ name ≠ here ∧ name ≠ above)
    ⟨fun both => ⟨both.1, both.2⟩, fun named => ⟨named.step, named.notDots⟩⟩

theorem isStep_of_mem_steps
    {path : Path}
    {name : Text}
    (member : name ∈ path.steps) :
    IsStep name := by
  have ofNames : ∀ name ∈ path.names, IsStep name := by
    intro name member
    rcases List.mem_filter.mp member with ⟨piece, nonempty⟩
    constructor
    · simpa using nonempty
    · exact Text.not_mem_of_mem_splitOn piece
  unfold steps at member
  split at member
  · rcases List.mem_append.mp member with inNames | atEnd
    · exact ofNames name inNames
    · rw [List.mem_singleton.mp atEnd]
      exact ⟨by decide, by decide⟩
  · exact ofNames name member

theorem names_joinNames
    {names : List Text}
    (steps : ∀ name ∈ names, IsStep name)
    (nonempty : names ≠ []) :
    Path.names ('/' :: joinNames names) = names := by
  have pieces : (joinNames names).splitOn '/' = names :=
    List.splitOn_intercalate '/' (fun name member => (steps name member).2)
      nonempty
  have rooted :
      List.splitOn '/' ('/' :: joinNames names) = [] :: names := by
    rw [← List.nil_append ('/' :: joinNames names),
      List.splitOn_append_cons_self_of_not_mem List.not_mem_nil, pieces]
  rw [Path.names, rooted, List.filter_cons_of_neg (by simp)]
  refine List.filter_eq_self.mpr fun name member => ?_
  simpa using (steps name member).1

theorem getLast?_joinNames
    {names : List Text}
    (steps : ∀ name ∈ names, IsStep name)
    (nonempty : names ≠ []) :
    ∃ final, (joinNames names).getLast? = some final ∧ final ≠ '/' := by
  induction names with
  | nil => exact absurd rfl nonempty
  | cons first rest ih =>
      have step := steps first List.mem_cons_self
      rcases rest with _ | ⟨second, others⟩
      · refine ⟨first.getLast step.1, ?_, ?_⟩
        · simp [joinNames, List.getLast?_eq_some_getLast step.1]
        · intro slash
          apply step.2
          rw [← slash]
          exact List.getLast_mem step.1
      · have stepsBehind : ∀ name ∈ second :: others, IsStep name :=
          fun name member => steps name (List.mem_cons_of_mem _ member)
        rcases ih stepsBehind (by simp) with ⟨final, ends, noSlash⟩
        refine ⟨final, ?_, noSlash⟩
        unfold joinNames at ends ⊢
        rw [List.intercalate_cons_cons, List.getLast?_append, ends]
        rfl

theorem steps_joinNames
    {names : List Text}
    (steps : ∀ name ∈ names, IsStep name)
    (nonempty : names ≠ []) :
    Path.steps ('/' :: joinNames names) = names := by
  rcases getLast?_joinNames steps nonempty with ⟨final, ends, different⟩
  have noSlash : ¬endsInSlash ('/' :: joinNames names) := by
    simpa [endsInSlash, List.getLast?_cons, ends] using different
  rw [Path.steps, if_neg noSlash, names_joinNames steps nonempty]

end Path

namespace FileSystem

/-- The working directory and the directories above it have names that an
entry can have.  A directory with another name could not be written as a path,
and no operation changes these names. -/
def HasNamedWorkDir (files : FileSystem) : Prop :=
  ∀ name ∈ files.workDir, Path.IsName name

instance (files : FileSystem) : Decidable files.HasNamedWorkDir :=
  inferInstanceAs (Decidable (∀ name ∈ files.workDir, Path.IsName name))

section Canonical

variable
  {files : FileSystem}
  {last : LastLink}
  {path : Path}
  {location another : Location}

theorem Leads.isName
    {route? : Location → Option Entry}
    {links : Nat}
    {directory : Location}
    {names : List Text}
    (leads : Leads route? last links directory names location)
    (base : ∀ name ∈ directory, Path.IsName name)
    (steps : ∀ name ∈ names, Path.IsStep name) :
    ∀ name ∈ location, Path.IsName name := by
  induction leads with
  | nil => exact base
  | here next ih =>
      exact ih base fun name member => steps name (List.mem_cons_of_mem _ member)
  | above next ih =>
      apply ih
      · exact fun name member => base name (List.mem_of_mem_tail member)
      · exact fun name member => steps name (List.mem_cons_of_mem _ member)
  | directory named short found next ih =>
      apply ih
      · exact List.forall_mem_cons.mpr
          ⟨⟨steps _ List.mem_cons_self, named⟩, base⟩
      · exact fun name member => steps name (List.mem_cons_of_mem _ member)
  | stop named =>
      exact List.forall_mem_cons.mpr
        ⟨⟨steps _ List.mem_cons_self, named⟩, base⟩
  | @link _ directory _ rest target _ named short found followed next ih =>
      apply ih
      · unfold linkOrigin
        split
        · simp
        · exact base
      · intro name member
        rcases List.mem_append.mp member with inTarget | inRest
        · exact Path.isStep_of_mem_steps inTarget
        · exact steps name (List.mem_cons_of_mem _ inRest)

theorem Reaches.isName
    (named : files.HasNamedWorkDir)
    (reaches : files.Reaches last path location) :
    ∀ name ∈ location, Path.IsName name := by
  apply reaches.2.isName
  · unfold origin
    split
    · simp
    · exact named
  · exact fun name member => Path.isStep_of_mem_steps member

/-- The path of a location leads to it if no link stands there. -/
theorem eq_of_reaches_absolutePath
    (named : ∀ name ∈ location, Path.IsName name)
    (inDirectory : files.IsDirectory location.tail)
    (noLink : ∀ target, files.route? location ≠ some (.link target))
    (reaches : files.Reaches last (absolutePath location) another) :
    another = location := by
  rcases reaches with ⟨-, leads⟩
  have fromRoot : files.origin (absolutePath location) = [] := rfl
  rw [fromRoot] at leads
  by_cases atRoot : location = []
  · subst atRoot
    have steps : Path.steps (absolutePath []) = [Path.here] := by decide
    rw [steps] at leads
    exact leads.eq_of_here
  · have steps : Path.steps (absolutePath location) = location.reverse := by
      apply Path.steps_joinNames
      · exact fun name member => (named name (List.mem_reverse.mp member)).step
      · simpa using atRoot
    rw [steps] at leads
    have straight := leads.eq_of_no_link ?_ ?_
    · simpa using straight
    · exact fun name member =>
        (named name (List.mem_reverse.mp member)).notDots
    · intro front inFront target
      have above : front.reverse <:+ location := by
        simpa using List.reverse_suffix.mpr inFront
      rw [List.append_nil]
      rcases List.suffix_cons_iff.mp
          (by rwa [List.cons_head_tail atRoot] : front.reverse <:+
            location.head atRoot :: location.tail) with same | below
      · rw [same, List.cons_head_tail]
        exact noLink target
      · rw [route?_eq_directory_iff.mpr (inDirectory _ below)]
        nofun

end Canonical

end FileSystem

end RegionSync
