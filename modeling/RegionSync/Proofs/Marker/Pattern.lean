import RegionSync.Text.Blank

/-!
# Patterns with groups

A pattern describes the front of a text: literal characters, a group that
holds a run of characters other than white space, one pattern behind another,
or a pattern that may be absent.  A run can be longer or shorter, so there may
be several ways to match.

`ways` lists them in the order in which they are tried: a run is as long as
it can be, and what may be absent is there if it can be.  The match of a whole
line is the first way that leaves nothing of the line.

Which ways there are does not depend on the order, and is said by one lemma
for each kind of pattern.  If all ways to match a whole line agree on what the
groups hold, the order is of no account: `captures?_eq_some_iff`.
-/

namespace RegionSync

/-- What the front of a text may look like. -/
inductive Pattern where
  | exactly (expected : Text)
  /-- A group that holds a run of characters other than white space. -/
  | solid
  | behind (first second : Pattern)
  | optional (part : Pattern)
  deriving DecidableEq, Repr

namespace Pattern

/-- The solid runs at the front of a text, each with what is behind it.  The
longest run comes first. -/
def solidRuns : Text → List (Text × Text)
  | [] => []
  | char :: rest =>
      if Text.isWhiteSpace char then
        []
      else
        (solidRuns rest).map (fun (run, left) => (char :: run, left))
          ++ [([char], rest)]

/-- How many groups a pattern has. -/
def groupCount : Pattern → Nat
  | exactly _ => 0
  | solid => 1
  | behind first second => first.groupCount + second.groupCount
  | optional part => part.groupCount

/-- The ways to match the front of a text, in the order in which they are
tried: what each group holds, and what is left of the text.  The groups of an
absent part hold nothing. -/
def ways : Pattern → Text → List (List (Option Text) × Text)
  | exactly expected, text =>
      ((Text.after? expected text).map fun rest => ([], rest)).toList
  | solid, text =>
      (solidRuns text).map fun (run, rest) => ([some run], rest)
  | behind first second, text =>
      (first.ways text).flatMap fun (held, middle) =>
        (second.ways middle).map fun (more, rest) => (held ++ more, rest)
  | optional part, text =>
      part.ways text ++ [(List.replicate part.groupCount none, text)]

/-- What the groups hold if a pattern is matched with a whole line. -/
def captures?
    (pattern : Pattern)
    (line : Text) :
    Option (List (Option Text)) :=
  ((pattern.ways line).find? fun (_, rest) => rest.isEmpty).map Prod.fst

/-! ## Which ways there are -/

theorem mem_solidRuns_cons_iff
    {char : Char}
    {text run rest : Text} :
    (run, rest) ∈ solidRuns (char :: text) ↔
      Text.isWhiteSpace char = false ∧
        ∃ inner,
          run = char :: inner ∧
            ((inner, rest) ∈ solidRuns text ∨ inner = [] ∧ rest = text) := by
  cases white : Text.isWhiteSpace char with
  | true => simp [solidRuns, white]
  | false =>
      simp only [solidRuns, white, Bool.false_eq_true, if_false,
        List.mem_append, List.mem_map, List.mem_singleton, Prod.mk.injEq,
        true_and]
      constructor
      · rintro (⟨⟨inner, left⟩, member, rfl, rfl⟩ | ⟨rfl, rfl⟩)
        · exact ⟨inner, rfl, Or.inl member⟩
        · exact ⟨[], rfl, Or.inr ⟨rfl, rfl⟩⟩
      · rintro ⟨inner, rfl, member | ⟨rfl, rfl⟩⟩
        · exact Or.inl ⟨(inner, rest), member, rfl, rfl⟩
        · exact Or.inr ⟨rfl, rfl⟩

theorem mem_solidRuns_iff
    {text run rest : Text} :
    (run, rest) ∈ solidRuns text ↔ run.isToken ∧ text = run ++ rest := by
  induction text generalizing run with
  | nil =>
      constructor
      · intro member
        cases member
      · rintro ⟨token, cut⟩
        obtain ⟨rfl, -⟩ := List.append_eq_nil_iff.mp cut.symm
        cases token
  | cons char text ih =>
      rw [mem_solidRuns_cons_iff]
      constructor
      · rintro ⟨dark, inner, rfl, below⟩
        rw [Text.isToken_cons_iff]
        rcases below with member | ⟨rfl, rfl⟩
        · rcases ih.mp member with ⟨token, rfl⟩
          exact ⟨⟨dark, Or.inr token⟩, rfl⟩
        · exact ⟨⟨dark, Or.inl rfl⟩, rfl⟩
      · rintro ⟨token, cut⟩
        rcases run with _ | ⟨first, inner⟩
        · cases token
        · obtain ⟨rfl, rfl⟩ := List.cons.inj cut
          rcases Text.isToken_cons_iff.mp token with ⟨dark, rfl | below⟩
          · exact ⟨dark, [], rfl, Or.inr ⟨rfl, rfl⟩⟩
          · exact ⟨dark, inner, rfl, Or.inl (ih.mpr ⟨below, rfl⟩)⟩

variable {held : List (Option Text)} {text rest : Text}

theorem mem_ways_exactly_iff
    {expected : Text} :
    (held, rest) ∈ (exactly expected).ways text ↔
      held = [] ∧ text = expected ++ rest := by
  simp only [ways, Option.mem_toList, Option.map_eq_some_iff,
    Text.after?_eq_some_iff, Prod.mk.injEq]
  constructor
  · rintro ⟨left, cut, rfl, rfl⟩
    exact ⟨rfl, cut⟩
  · rintro ⟨rfl, cut⟩
    exact ⟨rest, cut, rfl, rfl⟩

theorem mem_ways_solid_iff :
    (held, rest) ∈ solid.ways text ↔
      ∃ run : Text, run.isToken ∧ held = [some run] ∧ text = run ++ rest := by
  simp only [ways, List.mem_map, Prod.mk.injEq]
  constructor
  · rintro ⟨⟨run, left⟩, member, rfl, rfl⟩
    rcases mem_solidRuns_iff.mp member with ⟨token, cut⟩
    exact ⟨run, token, rfl, cut⟩
  · rintro ⟨run, token, rfl, cut⟩
    exact ⟨(run, rest), mem_solidRuns_iff.mpr ⟨token, cut⟩, rfl, rfl⟩

theorem mem_ways_behind_iff
    {first second : Pattern} :
    (held, rest) ∈ (behind first second).ways text ↔
      ∃ before middle after,
        (before, middle) ∈ first.ways text ∧
          (after, rest) ∈ second.ways middle ∧ held = before ++ after := by
  simp only [ways, List.mem_flatMap, List.mem_map, Prod.mk.injEq]
  constructor
  · rintro ⟨⟨before, middle⟩, matched, ⟨after, left⟩, below, rfl, rfl⟩
    exact ⟨before, middle, after, matched, below, rfl⟩
  · rintro ⟨before, middle, after, matched, below, rfl⟩
    exact ⟨(before, middle), matched, (after, rest), below, rfl, rfl⟩

theorem mem_ways_exactly_behind_iff
    {expected : Text}
    {second : Pattern} :
    (held, rest) ∈ (behind (exactly expected) second).ways text ↔
      ∃ below,
        text = expected ++ below ∧ (held, rest) ∈ second.ways below := by
  rw [mem_ways_behind_iff]
  constructor
  · rintro ⟨before, below, after, matched, behind, rfl⟩
    rcases mem_ways_exactly_iff.mp matched with ⟨rfl, cut⟩
    exact ⟨below, cut, behind⟩
  · rintro ⟨below, cut, behind⟩
    exact ⟨[], below, held, mem_ways_exactly_iff.mpr ⟨rfl, cut⟩, behind, rfl⟩

theorem mem_ways_solid_behind_iff
    {second : Pattern} :
    (held, rest) ∈ (behind solid second).ways text ↔
      ∃ run below after,
        Text.isToken run ∧ text = run ++ below ∧
          (after, rest) ∈ second.ways below ∧ held = some run :: after := by
  rw [mem_ways_behind_iff]
  constructor
  · rintro ⟨before, below, after, matched, behind, rfl⟩
    rcases mem_ways_solid_iff.mp matched with ⟨run, token, rfl, cut⟩
    exact ⟨run, below, after, token, cut, behind, rfl⟩
  · rintro ⟨run, below, after, token, cut, behind, rfl⟩
    have matched := mem_ways_solid_iff.mpr ⟨run, token, rfl, cut⟩
    exact ⟨[some run], below, after, matched, behind, rfl⟩

theorem mem_ways_optional_iff
    {part : Pattern} :
    (held, rest) ∈ (optional part).ways text ↔
      (held, rest) ∈ part.ways text ∨
        held = List.replicate part.groupCount none ∧ rest = text := by
  rw [ways, List.mem_append, List.mem_singleton, Prod.mk.injEq]

/-! ## Matching a whole line -/

theorem mem_ways_of_captures?
    {pattern : Pattern}
    {line : Text}
    (found : pattern.captures? line = some held) :
    (held, []) ∈ pattern.ways line := by
  rcases Option.map_eq_some_iff.mp found with ⟨⟨kept, left⟩, first, rfl⟩
  have member := List.mem_of_find?_eq_some first
  obtain rfl : left = [] := by simpa using List.find?_some first
  exact member

theorem captures?_eq_none_iff
    {pattern : Pattern}
    {line : Text} :
    pattern.captures? line = none ↔
      ∀ held, (held, []) ∉ pattern.ways line := by
  rw [captures?, Option.map_eq_none_iff, List.find?_eq_none]
  constructor
  · intro all held member
    exact all (held, []) member rfl
  · rintro none_whole ⟨held, left⟩ member nothing
    obtain rfl := List.isEmpty_iff.mp nothing
    exact none_whole held member

/-- A pattern is definite if all ways to match one whole line agree on what
the groups hold. -/
def IsDefinite (pattern : Pattern) : Prop :=
  ∀ line held other,
    (held, []) ∈ pattern.ways line →
      (other, []) ∈ pattern.ways line → held = other

/-- What a definite pattern captures does not depend on the order of its
ways. -/
theorem captures?_eq_some_iff
    {pattern : Pattern}
    (definite : pattern.IsDefinite)
    {line : Text} :
    pattern.captures? line = some held ↔ (held, []) ∈ pattern.ways line := by
  constructor
  · exact mem_ways_of_captures?
  · intro member
    cases found : pattern.captures? line with
    | none => exact absurd member (captures?_eq_none_iff.mp found held)
    | some other =>
        rw [definite line other held (mem_ways_of_captures? found) member]

end Pattern

end RegionSync
