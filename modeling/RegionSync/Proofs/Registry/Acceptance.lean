import Mathlib.Data.List.Forall2
import RegionSync.Proofs.Marker.Printing
import RegionSync.Proofs.Registry.Stored
import RegionSync.Registry.Fault

/-!
# Which lists of sections are registries

A registry is built section by section, and the first fault ends the building.
`AreValid` says of a whole list, without an order of tests, that it has no
fault; `HasFault` says which fault one section has behind others, the earlier
tests passed.

The main statement is `ofSections_decided`.  The valid lists are those that
are accepted, what is stored for a section is fixed by the section, and the
fault that is reported is that of the first section that has one.

Blank lines are taken off both ends of a body in two different ways.
`IsTrimmed` describes the result by a cut of the lines into three parts, and
`normalBody_eq_iff` ties it to the computation.
-/

namespace RegionSync

/-! ## Faults of one section -/

namespace Text

/-- Whether a text is not empty and holds no white space. -/
def IsSolid (text : Text) : Prop :=
  text ≠ [] ∧ ∀ char ∈ text, isWhiteSpace char = false

theorem isToken_iff_isSolid
    {text : Text} :
    text.isToken = true ↔ text.IsSolid :=
  isToken_iff

/-- Whether a line of a body is the line of a marker, if one carriage return
at its end is not counted. -/
def HoldsMarker (line : Text) : Prop :=
  ∃ marker : Marker, marker.IsPrintable ∧ dropFinal '\r' line = marker.print

theorem isMarkerLine_iff_holdsMarker
    {line : Text}
    (noFeed : '\n' ∉ line) :
    line.isMarkerLine = true ↔ line.HoldsMarker := by
  rw [isMarkerLine, Marker.ofRawLine?, content_of_not_mem noFeed,
    Option.isSome_iff_exists]
  exact exists_congr fun marker => Marker.ofLine?_eq_some_iff

end Text

namespace Section

/-- The first line of a body that holds a marker, and its number from 1. -/
def IsFirstMarkerLine
    (body : Text)
    (number : Nat)
    (line : Text) :
    Prop :=
  ∃ before behind,
    body.lines = before ++ line :: behind ∧ number = before.length + 1 ∧
      line.HoldsMarker ∧ ∀ other ∈ before, ¬other.HoldsMarker

/-- The fault of a section behind sections with the names `earlier`.  A fault
counts only if the section has none of the kinds in front of it. -/
inductive HasFault
    (earlier : List Text)
    (given : Section) :
    SectionFault → Prop where
  | name
      (hollow : ¬given.name.IsSolid) :
      HasFault earlier given (.badName given.name)
  | version
      (name : given.name.IsSolid)
      (hollow : ¬given.version.IsSolid) :
      HasFault earlier given (.badVersion given.name given.version)
  | repeated
      (name : given.name.IsSolid)
      (version : given.version.IsSolid)
      (seen : given.name ∈ earlier) :
      HasFault earlier given (.repeated given.name)
  | marker
      {number : Nat}
      {line : Text}
      (name : given.name.IsSolid)
      (version : given.version.IsSolid)
      (fresh : given.name ∉ earlier)
      (first : IsFirstMarkerLine given.body number line) :
      HasFault earlier given (.markerInBody given.name number line)

/-- Which numbered line the search for a marker finds. -/
theorem findSome?_zipIdx_eq_some_iff
    {lines : List Text}
    {start number : Nat}
    {line : Text} :
    ((lines.zipIdx start).findSome? fun (line, number) =>
        if line.isMarkerLine then some (number, line) else none) =
        some (number, line) ↔
      ∃ before behind,
        lines = before ++ line :: behind ∧ number = start + before.length ∧
          line.isMarkerLine = true ∧
          ∀ other ∈ before, other.isMarkerLine = false := by
  induction lines generalizing start with
  | nil => simp
  | cons first rest ih =>
      cases marked : first.isMarkerLine with
      | true =>
          simp only [List.zipIdx_cons, List.findSome?_cons, marked, if_true,
            Option.some.injEq, Prod.mk.injEq]
          constructor
          · rintro ⟨rfl, rfl⟩
            exact ⟨[], rest, rfl, rfl, marked, by simp⟩
          · rintro ⟨before, behind, cut, rfl, -, unmarked⟩
            cases before with
            | nil =>
                obtain ⟨rfl, -⟩ := List.cons.inj cut
                exact ⟨rfl, rfl⟩
            | cons other before =>
                obtain ⟨rfl, -⟩ := List.cons.inj cut
                have unmarkedFirst := unmarked first (by simp)
                rw [marked] at unmarkedFirst
                cases unmarkedFirst
      | false =>
          simp only [List.zipIdx_cons, List.findSome?_cons, marked,
            Bool.false_eq_true, if_false, ih]
          constructor
          · rintro ⟨before, behind, rfl, rfl, found, unmarked⟩
            exact ⟨first :: before, behind, rfl, by simp; omega, found,
              List.forall_mem_cons.mpr ⟨marked, unmarked⟩⟩
          · rintro ⟨before, behind, cut, rfl, found, unmarked⟩
            cases before with
            | nil =>
                obtain ⟨rfl, -⟩ := List.cons.inj cut
                rw [marked] at found
                cases found
            | cons other before =>
                obtain ⟨rfl, rfl⟩ := List.cons.inj cut
                exact ⟨before, behind, rfl, by simp; omega, found,
                  (List.forall_mem_cons.mp unmarked).2⟩

theorem markerLine?_eq_some_iff
    {body line : Text}
    {number : Nat} :
    markerLine? body = some (number, line) ↔
      IsFirstMarkerLine body number line := by
  rw [markerLine?, findSome?_zipIdx_eq_some_iff, IsFirstMarkerLine]
  have holds : ∀ other ∈ body.lines,
      (other.isMarkerLine = true ↔ other.HoldsMarker) :=
    fun other member =>
      Text.isMarkerLine_iff_holdsMarker (Text.feed_not_mem_of_mem_lines member)
  refine exists_congr fun before => exists_congr fun behind => ?_
  refine and_congr_right fun cut => ?_
  rw [cut, List.forall_mem_append, List.forall_mem_cons] at holds
  rcases holds with ⟨inFront, here, -⟩
  rw [Nat.add_comm, here]
  refine and_congr_right fun _ => and_congr_right fun _ =>
    forall₂_congr fun other member => ?_
  rw [← inFront other member, Bool.not_eq_true]

theorem HasFault.fault?_eq
    {earlier : List Text}
    {given : Section}
    {fault : SectionFault}
    (faulty : given.HasFault earlier fault) :
    given.fault? earlier = some fault := by
  cases faulty with
  | name hollow =>
      rw [← Text.isToken_iff_isSolid] at hollow
      simp [fault?, hollow]
  | version name hollow =>
      rw [← Text.isToken_iff_isSolid] at name hollow
      simp [fault?, name, hollow]
  | repeated name version seen =>
      rw [← Text.isToken_iff_isSolid] at name version
      simp [fault?, name, version, seen]
  | marker name version fresh first =>
      rw [← Text.isToken_iff_isSolid] at name version
      simp [fault?, name, version, fresh, markerLine?_eq_some_iff.mpr first]

theorem hasFault_or_fault?_eq_none
    (earlier : List Text)
    (given : Section) :
    (∃ fault, given.HasFault earlier fault) ∨
      given.fault? earlier = none := by
  by_cases name : given.name.IsSolid
  case neg => exact Or.inl ⟨_, .name name⟩
  by_cases version : given.version.IsSolid
  case neg => exact Or.inl ⟨_, .version name version⟩
  by_cases seen : given.name ∈ earlier
  case pos => exact Or.inl ⟨_, .repeated name version seen⟩
  cases marker : markerLine? given.body with
  | some found =>
      exact Or.inl
        ⟨_, .marker name version seen (markerLine?_eq_some_iff.mp marker)⟩
  | none =>
      exact Or.inr <| fault?_eq_none_iff.mpr
        ⟨Text.isToken_iff_isSolid.mpr name,
          Text.isToken_iff_isSolid.mpr version, seen, marker⟩

/-- The tests of a section find its fault. -/
theorem fault?_eq_some_iff
    {earlier : List Text}
    {given : Section}
    {fault : SectionFault} :
    given.fault? earlier = some fault ↔ given.HasFault earlier fault := by
  constructor
  · intro found
    rcases hasFault_or_fault?_eq_none earlier given with
      ⟨other, faulty⟩ | sound
    · obtain rfl := Option.some.inj (faulty.fault?_eq.symm.trans found)
      exact faulty
    · cases sound.symm.trans found
  · exact HasFault.fault?_eq

/-! ## Stored bodies -/

/-- Whether a body is another one from its first to its last line that is not
blank. -/
def IsTrimOf (raw body : Text) : Prop :=
  ∃ above kept below,
    IsTrimmed raw.lines above kept below ∧ body = Text.joinLines kept ∧
      (kept ≠ [] → body ≠ [] ∧ body.splitOn '\n' = kept)

theorem IsTrimmed.splitOn_joinLines
    {raw : Text}
    {above kept below : List Text}
    (trimmed : IsTrimmed raw.lines above kept below)
    (nonempty : kept ≠ []) :
    Text.joinLines kept ≠ [] ∧
      (Text.joinLines kept).splitOn '\n' = kept := by
  have noFeed : ∀ line ∈ kept, '\n' ∉ line := by
    intro line member
    have inRaw : line ∈ raw.lines := by simp [trimmed.whole, member]
    exact Text.feed_not_mem_of_mem_lines inRaw
  rcases last_solid_joinLines nonempty noFeed trimmed.last_solid with
    ⟨last, found, -, -⟩
  refine ⟨?_, List.splitOn_intercalate '\n' noFeed nonempty⟩
  intro empty
  simp [empty] at found

theorem normalBody_eq_iff
    {raw body : Text} :
    normalBody raw = body ↔ IsTrimOf raw body := by
  constructor
  · rintro rfl
    rcases exists_isTrimmed raw.lines with ⟨above, kept, below, trimmed⟩
    have same := normalBody_of_isTrimmed trimmed
    refine ⟨above, kept, below, trimmed, same, ?_⟩
    rw [same]
    exact trimmed.splitOn_joinLines
  · rintro ⟨above, kept, below, trimmed, rfl, -⟩
    exact normalBody_of_isTrimmed trimmed

/-- What a registry stores for a section. -/
structure IsStoredAs (given stored : Section) : Prop where
  name : stored.name = given.name
  version : stored.version = given.version
  body : IsTrimOf given.body stored.body

theorem isStoredAs_iff
    {given stored : Section} :
    given.IsStoredAs stored ↔ given.normalize = stored := by
  rcases stored with ⟨name, version, body⟩
  rw [normalize, mk.injEq, normalBody_eq_iff]
  constructor
  · rintro ⟨sameName, sameVersion, trim⟩
    exact ⟨sameName.symm, sameVersion.symm, trim⟩
  · rintro ⟨sameName, sameVersion, trim⟩
    exact ⟨sameName.symm, sameVersion.symm, trim⟩

/-! ## Lists of sections -/

/-- Whether no section of a list has a fault. -/
structure AreValid (sections : List Section) : Prop where
  names : ∀ given ∈ sections, given.name.IsSolid
  versions : ∀ given ∈ sections, given.version.IsSolid
  distinct : (sections.map Section.name).Nodup
  unmarked :
    ∀ given ∈ sections, ∀ line ∈ given.body.lines, ¬line.HoldsMarker

/-- The fault of a list of sections: all in front of the faulty section are
valid, and what follows it does not matter. -/
def IsFirstFault
    (sections : List Section)
    (fault : SectionFault) :
    Prop :=
  ∃ before faulty behind,
    sections = before ++ faulty :: behind ∧ AreValid before ∧
      faulty.HasFault (before.map Section.name) fault

theorem fault?_eq_none_iff_isSolid
    {earlier : List Text}
    {given : Section} :
    given.fault? earlier = none ↔
      given.name.IsSolid ∧ given.version.IsSolid ∧ given.name ∉ earlier ∧
        ∀ line ∈ given.body.lines, ¬line.HoldsMarker := by
  rw [fault?_eq_none_iff, Text.isToken_iff_isSolid, Text.isToken_iff_isSolid,
    markerLine?_eq_none_iff]
  refine and_congr_right fun _ => and_congr_right fun _ =>
    and_congr_right fun _ => forall₂_congr fun line member => ?_
  rw [← Text.isMarkerLine_iff_holdsMarker
      (Text.feed_not_mem_of_mem_lines member),
    Bool.not_eq_true]

theorem AreValid.sublist
    {sections others : List Section}
    (valid : AreValid others)
    (within : sections.Sublist others) :
    AreValid sections where
  names given member := valid.names given (within.subset member)
  versions given member := valid.versions given (within.subset member)
  distinct := valid.distinct.sublist (within.map Section.name)
  unmarked given member := valid.unmarked given (within.subset member)

/-- A valid list stays valid with a section behind it that has no fault
there. -/
theorem areValid_append_singleton_iff
    {before : List Section}
    {given : Section} :
    AreValid (before ++ [given]) ↔
      AreValid before ∧ given.fault? (before.map Section.name) = none := by
  rw [fault?_eq_none_iff_isSolid]
  constructor
  · intro valid
    have distinct := valid.distinct
    rw [List.map_append, List.map_singleton, List.nodup_append_comm,
      List.singleton_append, List.nodup_cons] at distinct
    have here : given ∈ before ++ [given] := by simp
    exact
      ⟨valid.sublist (List.sublist_append_left _ _), valid.names given here,
        valid.versions given here, distinct.1, valid.unmarked given here⟩
  · rintro ⟨valid, name, version, fresh, unmarked⟩
    constructor
    · rw [List.forall_mem_append, List.forall_mem_singleton]
      exact ⟨valid.names, name⟩
    · rw [List.forall_mem_append, List.forall_mem_singleton]
      exact ⟨valid.versions, version⟩
    · rw [List.map_append, List.map_singleton, List.nodup_append_comm,
        List.singleton_append, List.nodup_cons]
      exact ⟨fresh, valid.distinct⟩
    · rw [List.forall_mem_append, List.forall_mem_singleton]
      exact ⟨valid.unmarked, unmarked⟩

/-- Of the names in front, only membership counts. -/
theorem fault?_congr
    {earlier other : List Text}
    (same : ∀ name, name ∈ earlier ↔ name ∈ other)
    (given : Section) :
    given.fault? earlier = given.fault? other := by
  have contained : earlier.contains given.name = other.contains given.name := by
    rw [Bool.eq_iff_iff, List.contains_iff_mem, List.contains_iff_mem]
    exact same given.name
  rw [fault?, fault?, contained]

end Section

namespace Registry

open Section

/-! ## The walk over a list -/

theorem accept?_cons_eq_error_iff
    {earlier : List Text}
    {first : Section}
    {rest : List Section}
    {fault : SectionFault} :
    accept? earlier (first :: rest) = .error fault ↔
      first.fault? earlier = some fault ∨
        first.fault? earlier = none ∧
          accept? (first.name :: earlier) rest = .error fault := by
  cases found : first.fault? earlier with
  | some other => simp [accept?, found]
  | none =>
      cases below : accept? (first.name :: earlier) rest with
      | error other => simp [accept?, found, below, bind, Except.bind]
      | ok others =>
          simp [accept?, found, below, bind, Except.bind, pure, Except.pure]

/-- The names that the walk has met behind some sections. -/
def metNames (before : List Section) : List Text :=
  (before.map Section.name).reverse

theorem metNames_append_singleton
    (before : List Section)
    (given : Section) :
    metNames (before ++ [given]) = given.name :: metNames before := by
  simp [metNames]

theorem fault?_metNames
    (before : List Section)
    (given : Section) :
    given.fault? (metNames before) =
      given.fault? (before.map Section.name) :=
  fault?_congr (fun _ => List.mem_reverse) given

theorem accept?_metNames_eq_ok_iff
    {before rest stored : List Section}
    (valid : AreValid before) :
    accept? (metNames before) rest = .ok stored ↔
      AreValid (before ++ rest) ∧ stored = rest.map Section.normalize := by
  induction rest generalizing before stored with
  | nil => simp [accept?, valid, eq_comm]
  | cons first rest ih =>
      rw [accept?_cons_eq_ok_iff, fault?_metNames,
        List.append_cons before first rest, List.map_cons]
      constructor
      · rintro ⟨sound, others, rfl, below⟩
        rw [← metNames_append_singleton,
          ih (areValid_append_singleton_iff.mpr ⟨valid, sound⟩)] at below
        rcases below with ⟨whole, rfl⟩
        exact ⟨whole, rfl⟩
      · rintro ⟨whole, rfl⟩
        have here := whole.sublist (List.sublist_append_left _ _)
        refine ⟨(areValid_append_singleton_iff.mp here).2, _, rfl, ?_⟩
        rw [← metNames_append_singleton, ih here]
        exact ⟨whole, rfl⟩

theorem accept?_metNames_eq_error_iff
    {before rest : List Section}
    {fault : SectionFault}
    (valid : AreValid before) :
    accept? (metNames before) rest = .error fault ↔
      ∃ middle faulty behind,
        rest = middle ++ faulty :: behind ∧ AreValid (before ++ middle) ∧
          faulty.HasFault ((before ++ middle).map Section.name) fault := by
  induction rest generalizing before with
  | nil => simp [accept?]
  | cons first rest ih =>
      rw [accept?_cons_eq_error_iff, fault?_metNames,
        ← metNames_append_singleton]
      constructor
      · rintro (here | ⟨sound, below⟩)
        · refine ⟨[], first, rest, rfl, ?_, ?_⟩
          · rwa [List.append_nil]
          · rw [List.append_nil]
            exact fault?_eq_some_iff.mp here
        · rw [ih (areValid_append_singleton_iff.mpr ⟨valid, sound⟩)] at below
          rcases below with ⟨middle, faulty, behind, rfl, inFront, has⟩
          rw [← List.append_cons] at inFront has
          exact ⟨first :: middle, faulty, behind, rfl, inFront, has⟩
      · rintro ⟨middle, faulty, behind, cut, inFront, has⟩
        cases middle with
        | nil =>
            obtain ⟨rfl, rfl⟩ := List.cons.inj cut
            rw [List.append_nil] at has
            exact Or.inl (fault?_eq_some_iff.mpr has)
        | cons other middle =>
            obtain ⟨rfl, rfl⟩ := List.cons.inj cut
            rw [List.append_cons] at inFront has
            have here := inFront.sublist (List.sublist_append_left _ _)
            refine Or.inr ⟨(areValid_append_singleton_iff.mp here).2, ?_⟩
            rw [ih here]
            exact ⟨middle, faulty, behind, rfl, inFront, has⟩

theorem areValid_nil : AreValid [] :=
  ⟨by simp, by simp, by simp, by simp⟩

/-- The registry of a valid list holds the normal forms of its sections. -/
theorem ofSections_eq_ok_iff
    {sections : List Section}
    {registry : Registry} :
    ofSections sections = .ok registry ↔
      AreValid sections ∧ registry = ⟨sections.map Section.normalize⟩ := by
  rcases registry with ⟨stored⟩
  have walk :
      accept? [] sections = .ok stored ↔
        AreValid sections ∧ stored = sections.map Section.normalize :=
    accept?_metNames_eq_ok_iff areValid_nil
  rw [mk.injEq, ← walk]
  cases found : accept? [] sections <;>
    simp [ofSections, found, bind, Except.bind, pure, Except.pure]

theorem ofSections_eq_error_iff
    {sections : List Section}
    {fault : SectionFault} :
    ofSections sections = .error fault ↔ IsFirstFault sections fault := by
  have walk :
      accept? [] sections = .error fault ↔ IsFirstFault sections fault :=
    accept?_metNames_eq_error_iff areValid_nil
  rw [← walk]
  cases found : accept? [] sections <;>
    simp [ofSections, found, bind, Except.bind, pure, Except.pure]

/-! ## What a registry holds -/

/-- A registry that holds some sections in their order, and finds the one
section of each name. -/
structure Holds
    (registry : Registry)
    (sections : List Section) :
    Prop where
  stored : List.Forall₂ Section.IsStoredAs sections registry.sections
  get?_iff :
    ∀ name stored,
      registry.get? name = some stored ↔
        stored ∈ registry.sections ∧ stored.name = name

theorem names_map_normalize (sections : List Section) :
    names ⟨sections.map Section.normalize⟩ = sections.map Section.name := by
  rw [names, List.map_map]
  rfl

theorem forall₂_isStoredAs_iff
    {sections stored : List Section} :
    List.Forall₂ Section.IsStoredAs sections stored ↔
      stored = sections.map Section.normalize := by
  have same : Section.IsStoredAs = fun given stored =>
      given.normalize = stored := by
    funext given stored
    exact propext isStoredAs_iff
  rw [same, ← List.forall₂_map_left_iff, List.forall₂_eq_eq_eq, eq_comm]

theorem holds_iff
    {sections : List Section}
    (valid : AreValid sections)
    {registry : Registry} :
    registry.Holds sections ↔
      registry = ⟨sections.map Section.normalize⟩ := by
  rcases registry with ⟨stored⟩
  rw [mk.injEq, ← forall₂_isStoredAs_iff]
  constructor
  · exact Holds.stored
  · intro all
    refine ⟨all, fun name canonical => get?_eq_some_iff ?_⟩
    rw [forall₂_isStoredAs_iff.mp all, names_map_normalize]
    exact valid.distinct

/-- A list of sections is a registry if it is valid, and otherwise its first
fault is reported; for a marker in a body the report gives the number of its
line. -/
theorem ofSections_decided
    (sections : List Section) :
    ((∃ registry, ofSections sections = .ok registry) ↔
      AreValid sections) ∧
    (∀ registry,
      ofSections sections = .ok registry ↔
        AreValid sections ∧ registry.Holds sections) ∧
    (∀ fault,
      ofSections sections = .error fault ↔
        IsFirstFault sections fault) ∧
    ∀ name number line,
      (SectionFault.markerInBody name number line).message =
        "section ".toList ++ name.quoted
          ++ " has a region marker on body line ".toList
          ++ Text.ofNat number ++ ": ".toList ++ line.quoted := by
  refine
    ⟨?_, fun registry => ?_, fun fault => ofSections_eq_error_iff,
      fun name number line => rfl⟩
  · constructor
    · rintro ⟨registry, accepted⟩
      exact (ofSections_eq_ok_iff.mp accepted).1
    · intro valid
      exact ⟨_, ofSections_eq_ok_iff.mpr ⟨valid, rfl⟩⟩
  · rw [ofSections_eq_ok_iff]
    exact and_congr_right fun valid => (holds_iff valid).symm

end Registry

end RegionSync
