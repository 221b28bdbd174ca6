import Mathlib.Data.List.Nodup
import Mathlib.Data.List.TakeWhile
import RegionSync.Proofs.Text.Break
import RegionSync.Registry.Basic

/-!
# What a registry stores

A registry is made by testing the sections one after the other and putting
their bodies into normal form.  This module says what can be relied on
afterwards: names and versions are tokens, no two sections share a name, and
every body is normal.  A normal body does not end in a line feed, its first
and its last line are not blank, and none of the pieces between its line
feeds is a marker line.

Nothing is said about carriage returns.  Normalization takes one off the end
of each line and lets others stand, so the body of a stored section may still
hold a carriage return in front of a line feed.
-/

namespace RegionSync

namespace Section

/-- A body without blank edges and without markers between its line feeds. -/
structure IsNormalBody (body : Text) : Prop where
  unended : body.getLast? ≠ some '\n'
  first_solid : ∀ first ∈ body.lines.head?, first.isBlank = false
  last_solid : ∀ last ∈ body.lines.getLast?, last.isBlank = false
  unmarked : ∀ line ∈ body.splitOn '\n', Text.isMarkerLine line = false

/-- A section as registries hold it. -/
structure IsStored (canonical : Section) : Prop where
  name_token : canonical.name.isToken
  version_token : canonical.version.isToken
  body_normal : IsNormalBody canonical.body

/-! ## Joined lines -/

theorem ne_nil_of_not_isBlank
    {line : Text}
    (solid : line.isBlank = false) :
    line ≠ [] := by
  rintro rfl
  simp at solid

theorem joinLines_cons_cons
    (first next : Text)
    (rest : List Text) :
    Text.joinLines (first :: next :: rest) =
      first ++ '\n' :: Text.joinLines (next :: rest) := by
  simp [Text.joinLines, List.intercalate_cons_cons]

/-- Joined lines end as their last line does, if that is not blank. -/
theorem last_solid_joinLines
    {pieces : List Text}
    (nonempty : pieces ≠ [])
    (noFeed : ∀ piece ∈ pieces, '\n' ∉ piece)
    (solid : ∀ last ∈ pieces.getLast?, last.isBlank = false) :
    ∃ last,
      (Text.joinLines pieces).lines.getLast? = some last ∧
        last.isBlank = false ∧
        (Text.joinLines pieces).getLast? ≠ some '\n' := by
  induction pieces with
  | nil => exact absurd rfl nonempty
  | cons first rest ih =>
      have firstFree := noFeed first (by simp)
      cases rest with
      | nil =>
          have firstSolid := solid first rfl
          have lines :=
            Text.lines_of_not_mem (ne_nil_of_not_isBlank firstSolid) firstFree
          refine ⟨first, ?_, firstSolid, ?_⟩
          · simp [Text.joinLines, lines]
          · simpa [Text.joinLines] using
              Text.getLast?_ne_of_not_mem firstFree
      | cons next others =>
          obtain ⟨last, found, lastSolid, unended⟩ :=
            ih (by simp) (fun piece member => noFeed piece (by simp [member]))
              (by simpa [List.getLast?_cons_cons] using solid)
          have below : Text.joinLines (next :: others) ≠ [] := by
            intro empty
            simp [empty] at found
          refine ⟨last, ?_, lastSolid, ?_⟩
          · rw [joinLines_cons_cons, Text.lines_append_feed _ firstFree,
              List.getLast?_cons, found]
            rfl
          · rw [joinLines_cons_cons, List.getLast?_append,
              List.getLast?_cons]
            cases ended : (Text.joinLines (next :: others)).getLast? with
            | none => exact absurd (List.getLast?_eq_none_iff.mp ended) below
            | some char => simpa [ended] using unended

theorem first_solid_joinLines
    {pieces : List Text}
    (noFeed : ∀ piece ∈ pieces, '\n' ∉ piece)
    (solid : ∀ first ∈ pieces.head?, first.isBlank = false) :
    ∀ first ∈ (Text.joinLines pieces).lines.head?,
      first.isBlank = false := by
  cases pieces with
  | nil => simp [Text.joinLines]
  | cons first rest =>
      have firstFree := noFeed first (by simp)
      have firstSolid := solid first rfl
      cases rest with
      | nil =>
          have lines :=
            Text.lines_of_not_mem (ne_nil_of_not_isBlank firstSolid) firstFree
          simpa [Text.joinLines, lines] using firstSolid
      | cons next others =>
          rw [joinLines_cons_cons, Text.lines_append_feed _ firstFree]
          simpa [Text.isBlank_dropFinal] using firstSolid

theorem isNormalBody_joinLines
    {pieces : List Text}
    (noFeed : ∀ piece ∈ pieces, '\n' ∉ piece)
    (unmarked : ∀ piece ∈ pieces, piece.isMarkerLine = false)
    (firstSolid : ∀ first ∈ pieces.head?, first.isBlank = false)
    (lastSolid : ∀ last ∈ pieces.getLast?, last.isBlank = false) :
    IsNormalBody (Text.joinLines pieces) := by
  by_cases nonempty : pieces = []
  · subst nonempty
    have emptyLine : Text.isMarkerLine [] = false := by decide
    exact ⟨by simp [Text.joinLines], by simp [Text.joinLines],
      by simp [Text.joinLines], by simpa [Text.joinLines] using emptyLine⟩
  · rcases last_solid_joinLines nonempty noFeed lastSolid with
      ⟨last, found, solid, unended⟩
    exact
      { unended
        first_solid := first_solid_joinLines noFeed firstSolid
        last_solid := by
          rw [found]
          intro other member
          obtain rfl := Option.some.inj member
          exact solid
        unmarked := by
          rw [Text.joinLines, List.splitOn_intercalate '\n' noFeed nonempty]
          exact unmarked }

/-! ## Normal form -/

/-- A cut of lines into blank ones, the lines from the first to the last that
is not blank, and blank ones again. -/
structure IsTrimmed (lines above kept below : List Text) : Prop where
  whole : lines = above ++ (kept ++ below)
  above_blank : ∀ line ∈ above, line.isBlank = true
  below_blank : ∀ line ∈ below, line.isBlank = true
  first_solid : ∀ first ∈ kept.head?, first.isBlank = false
  last_solid : ∀ last ∈ kept.getLast?, last.isBlank = false

theorem exists_isTrimmed (lines : List Text) :
    ∃ above kept below, IsTrimmed lines above kept below := by
  have front := List.head?_dropWhile_not Text.isBlank lines
  have whole := List.takeWhile_append_dropWhile (p := Text.isBlank) (l := lines)
  generalize lines.dropWhile Text.isBlank = fromFirst at front whole
  have back := List.head?_dropWhile_not Text.isBlank fromFirst.reverse
  have cut := List.takeWhile_append_dropWhile (p := Text.isBlank)
    (l := fromFirst.reverse)
  generalize fromFirst.reverse.dropWhile Text.isBlank = kept at back cut
  have fromFirst_eq :
      fromFirst =
        kept.reverse ++
          (fromFirst.reverse.takeWhile Text.isBlank).reverse := by
    rw [← List.reverse_append, cut, List.reverse_reverse]
  refine
    ⟨lines.takeWhile Text.isBlank, kept.reverse,
      (fromFirst.reverse.takeWhile Text.isBlank).reverse,
      { whole := by rw [← fromFirst_eq, whole]
        above_blank := fun line => List.mem_takeWhile_imp
        below_blank := fun line member =>
          List.mem_takeWhile_imp (List.mem_reverse.mp member)
        first_solid := ?_
        last_solid := ?_ }⟩
  · -- Taking lines off the back keeps the first one, if any is left.
    intro first member
    have head : fromFirst.head? = some first := by
      rw [fromFirst_eq, List.head?_append, Option.mem_def.mp member]
      rfl
    rw [head] at front
    exact front
  · intro last member
    rw [List.getLast?_reverse] at member
    rw [Option.mem_def.mp member] at back
    exact back

/-- The normal form of a body consists of the lines that trimming keeps. -/
theorem normalBody_of_isTrimmed
    {raw : Text}
    {above kept below : List Text}
    (trimmed : IsTrimmed raw.lines above kept below) :
    normalBody raw = Text.joinLines kept := by
  rw [normalBody, trimmed.whole,
    List.dropWhile_append_of_pos trimmed.above_blank]
  cases kept with
  | nil =>
      have gone : below.dropWhile Text.isBlank = [] :=
        List.dropWhile_eq_nil_iff.mpr trimmed.below_blank
      simp [gone]
  | cons first rest =>
      have firstSolid := trimmed.first_solid first rfl
      have stays :
          (first :: rest ++ below).dropWhile Text.isBlank =
            first :: rest ++ below := by
        rw [List.cons_append, List.dropWhile_cons_of_neg (by simp [firstSolid])]
      have lastStays :
          (first :: rest).reverse.dropWhile Text.isBlank =
            (first :: rest).reverse := by
        have lastSolid := trimmed.last_solid
        rw [← List.head?_reverse] at lastSolid
        cases turned : (first :: rest).reverse with
        | nil => rfl
        | cons last others =>
            rw [turned] at lastSolid
            exact List.dropWhile_cons_of_neg (by simp [lastSolid last rfl])
      rw [stays, List.reverse_append,
        List.dropWhile_append_of_pos
          (fun line member =>
            trimmed.below_blank line (List.mem_reverse.mp member)),
        lastStays, List.reverse_reverse]

theorem markerLine?_eq_none_iff
    {body : Text} :
    markerLine? body = none ↔
      ∀ line ∈ body.lines, line.isMarkerLine = false := by
  rw [markerLine?, List.findSome?_eq_none_iff]
  constructor
  · intro unmarked line member
    rcases List.mem_iff_getElem?.mp member with ⟨index, found⟩
    have numbered : (line, 1 + index) ∈ body.lines.zipIdx 1 := by
      rw [List.mk_add_mem_zipIdx_iff_getElem?]
      exact found
    simpa using unmarked _ numbered
  · rintro unmarked ⟨line, number⟩ numbered
    simp [unmarked line (List.fst_mem_of_mem_zipIdx numbered)]

/-- The body of a section whose lines hold no marker becomes normal. -/
theorem isNormalBody_normalBody
    {raw : Text}
    (unmarked : markerLine? raw = none) :
    IsNormalBody (normalBody raw) := by
  have plain := markerLine?_eq_none_iff.mp unmarked
  rcases exists_isTrimmed raw.lines with ⟨above, kept, below, trimmed⟩
  have inKept : ∀ line ∈ kept, line ∈ raw.lines := by
    intro line member
    simp [trimmed.whole, member]
  rw [normalBody_of_isTrimmed trimmed]
  exact isNormalBody_joinLines
    (fun line member => Text.feed_not_mem_of_mem_lines (inKept line member))
    (fun line member => plain line (inKept line member))
    trimmed.first_solid trimmed.last_solid

/-! ## Tests of one section -/

/-- A section without a fault has passed all four tests. -/
theorem fault?_eq_none_iff
    {earlier : List Text}
    {given : Section} :
    given.fault? earlier = none ↔
      given.name.isToken ∧ given.version.isToken ∧ given.name ∉ earlier ∧
        markerLine? given.body = none := by
  rw [fault?]
  by_cases name : given.name.isToken
  · by_cases version : given.version.isToken
    · by_cases repeated : given.name ∈ earlier
      · simp [name, version, repeated]
      · simp [name, version, repeated]
    · simp [name, version]
  · simp [name]

theorem isStored_normalize
    {earlier : List Text}
    {given : Section}
    (sound : given.fault? earlier = none) :
    given.normalize.IsStored := by
  rcases fault?_eq_none_iff.mp sound with ⟨name, version, -, unmarked⟩
  exact ⟨name, version, isNormalBody_normalBody unmarked⟩

end Section

namespace Registry

/-- A registry of stored sections with distinct names. -/
structure IsSound (registry : Registry) : Prop where
  stored : ∀ canonical ∈ registry.sections, canonical.IsStored
  distinct : registry.names.Nodup

theorem accept?_cons_eq_ok_iff
    {earlier : List Text}
    {first : Section}
    {rest stored : List Section} :
    accept? earlier (first :: rest) = .ok stored ↔
      first.fault? earlier = none ∧
        ∃ others,
          stored = first.normalize :: others ∧
            accept? (first.name :: earlier) rest = .ok others := by
  cases fault : first.fault? earlier with
  | some found => simp [accept?, fault]
  | none =>
      cases below : accept? (first.name :: earlier) rest with
      | error found => simp [accept?, fault, below, bind, Except.bind]
      | ok others =>
          simp [accept?, fault, below, bind, Except.bind, pure, Except.pure,
            eq_comm]

theorem isSound_of_accept?
    {earlier : List Text}
    {given stored : List Section}
    (accepted : accept? earlier given = .ok stored) :
    (∀ canonical ∈ stored, canonical.IsStored) ∧
      (stored.map Section.name).Nodup ∧
      ∀ name ∈ stored.map Section.name, name ∉ earlier := by
  induction given generalizing earlier stored with
  | nil =>
      obtain rfl := Except.ok.inj accepted
      simp
  | cons first rest ih =>
      rcases accept?_cons_eq_ok_iff.mp accepted with
        ⟨sound, others, rfl, below⟩
      rcases ih below with ⟨allStored, distinct, apart⟩
      have fresh := (Section.fault?_eq_none_iff.mp sound).2.2.1
      have nameEq : first.normalize.name = first.name := rfl
      refine ⟨?_, ?_, ?_⟩
      · exact List.forall_mem_cons.mpr
          ⟨Section.isStored_normalize sound, allStored⟩
      · rw [List.map_cons, List.nodup_cons, nameEq]
        refine ⟨fun member => ?_, distinct⟩
        exact apart first.name member (by simp)
      · rw [List.map_cons, nameEq]
        refine List.forall_mem_cons.mpr ⟨fresh, fun name member => ?_⟩
        exact fun seen => apart name member (by simp [seen])

/-- Every registry that is accepted is sound. -/
theorem isSound_of_ofSections
    {sections : List Section}
    {registry : Registry}
    (accepted : ofSections sections = .ok registry) :
    registry.IsSound := by
  cases found : accept? [] sections with
  | error fault => simp [ofSections, found, bind, Except.bind] at accepted
  | ok stored =>
      simp only [ofSections, found, bind, Except.bind, pure, Except.pure,
        Except.ok.injEq] at accepted
      subst accepted
      rcases isSound_of_accept? found with ⟨allStored, distinct, -⟩
      exact ⟨allStored, distinct⟩

/-! ## Looking a section up -/

theorem mem_of_get?
    {registry : Registry}
    {name : Text}
    {canonical : Section}
    (found : registry.get? name = some canonical) :
    canonical ∈ registry.sections ∧ canonical.name = name :=
  ⟨List.mem_of_find?_eq_some found, by simpa using List.find?_some found⟩

theorem get?_eq_none_iff
    {registry : Registry}
    {name : Text} :
    registry.get? name = none ↔ name ∉ registry.names := by
  simp [get?, names]

/-- If no two sections share a name, a look-up finds the one of that name. -/
theorem get?_eq_some_iff
    {registry : Registry}
    (distinct : registry.names.Nodup)
    {name : Text}
    {canonical : Section} :
    registry.get? name = some canonical ↔
      canonical ∈ registry.sections ∧ canonical.name = name := by
  constructor
  · exact mem_of_get?
  · rintro ⟨member, rfl⟩
    have some_found : (registry.get? canonical.name).isSome := by
      rw [get?, List.find?_isSome]
      exact ⟨canonical, member, by simp⟩
    rcases Option.isSome_iff_exists.mp some_found with ⟨found, lookup⟩
    rcases mem_of_get? lookup with ⟨foundMember, sameName⟩
    have same : found = canonical :=
      List.inj_on_of_nodup_map distinct foundMember member sameName
    rw [lookup, same]

theorem IsSound.get?_name
    {registry : Registry}
    (sound : registry.IsSound)
    {canonical : Section}
    (member : canonical ∈ registry.sections) :
    registry.get? canonical.name = some canonical :=
  (get?_eq_some_iff sound.distinct).mpr ⟨member, rfl⟩

end Registry

end RegionSync
