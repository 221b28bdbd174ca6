import RegionSync.Region

/-!
# Padding is taken greedily

The inner lines of a region are cut into a leading blank line, the body and a
trailing blank line.  Either blank line may be absent, but only if the line
that stands in its place is not blank or there is no line.  `IsGreedy` states
this of three parts.

Every list of lines has exactly one such cut, and `ofLines` makes it:
`exists_isGreedy` gives the parts and `IsGreedy.ofLines_eq` computes the
region from them.
-/

namespace RegionSync.MarkedRegion

/-- A cut of inner lines into padding and body that takes every blank line it
may take. -/
structure IsGreedy
    (leading : Option Text)
    (body : List Text)
    (trailing : Option Text) :
    Prop where
  leading_blank : ∀ pad ∈ leading, pad.isBlank
  trailing_blank : ∀ pad ∈ trailing, pad.isBlank
  /-- Without leading padding, the first inner line is not blank. -/
  leading_greedy :
    leading = none →
      ∀ first ∈ (body ++ trailing.toList).head?, first.isBlank = false
  /-- Without trailing padding, the last line behind the leading padding is
  not blank. -/
  trailing_greedy :
    trailing = none →
      ∀ last ∈ (body ++ trailing.toList).getLast?, last.isBlank = false

/-! ## One blank line -/

theorem takePad_of_isBlank
    {first : Text}
    (rest : List Text)
    (blank : first.isBlank) :
    takePad (first :: rest) = (some first, rest) := by
  simp [takePad, blank]

theorem takePad_of_head?
    {lines : List Text}
    (solid : ∀ first ∈ lines.head?, first.isBlank = false) :
    takePad lines = (none, lines) := by
  cases lines with
  | nil => rfl
  | cons first rest => simp [takePad, solid first (by simp)]

theorem takePad_cases
    (lines : List Text) :
    (∃ first rest,
        lines = first :: rest ∧ first.isBlank ∧
          takePad lines = (some first, rest)) ∨
      (∀ first ∈ lines.head?, first.isBlank = false) ∧
        takePad lines = (none, lines) := by
  by_cases solid : ∀ first ∈ lines.head?, first.isBlank = false
  · exact Or.inr ⟨solid, takePad_of_head? solid⟩
  · cases lines with
    | nil => simp at solid
    | cons first rest =>
        have blank : first.isBlank = true := by simpa using solid
        exact Or.inl
          ⟨first, rest, rfl, blank, takePad_of_isBlank rest blank⟩

/-! ## The greedy cut -/

/-- Every list of lines has a greedy cut. -/
theorem exists_isGreedy
    (inner : List Text) :
    ∃ leading body trailing,
      IsGreedy leading body trailing ∧
        inner = leading.toList ++ (body ++ trailing.toList) := by
  -- The back is cut first, as a front of the reversed lines.
  have back :
      ∀ lines : List Text, ∃ body trailing,
        lines = body ++ trailing.toList ∧
          (∀ pad ∈ trailing, pad.isBlank) ∧
          (trailing = none →
            ∀ last ∈ (body ++ trailing.toList).getLast?,
              last.isBlank = false) := by
    intro lines
    rcases takePad_cases lines.reverse with
      ⟨last, rest, reversed, blank, -⟩ | ⟨solid, -⟩
    · refine ⟨rest.reverse, some last, ?_, ?_, by simp⟩
      · have forward := congrArg List.reverse reversed
        simpa using forward
      · intro pad member
        obtain rfl := Option.some.inj member
        exact blank
    · refine ⟨lines, none, by simp, by simp, ?_⟩
      intro _ last member
      apply solid last
      simpa [List.head?_reverse] using member
  rcases takePad_cases inner with
    ⟨first, rest, rfl, blank, -⟩ | ⟨solid, -⟩
  · rcases back rest with ⟨body, trailing, rfl, trailingBlank, trailingGreedy⟩
    refine ⟨some first, body, trailing,
      ⟨?_, trailingBlank, by simp, trailingGreedy⟩, by simp⟩
    intro pad member
    obtain rfl := Option.some.inj member
    exact blank
  · rcases back inner with
      ⟨body, trailing, rfl, trailingBlank, trailingGreedy⟩
    exact ⟨none, body, trailing,
      ⟨by simp, trailingBlank, fun _ => solid, trailingGreedy⟩, by simp⟩

theorem IsGreedy.takePad_eq
    {leading trailing : Option Text}
    {body : List Text}
    (greedy : IsGreedy leading body trailing) :
    takePad (leading.toList ++ (body ++ trailing.toList)) =
      (leading, body ++ trailing.toList) := by
  cases leading with
  | none => simpa using takePad_of_head? (greedy.leading_greedy rfl)
  | some pad =>
      exact takePad_of_isBlank _ (greedy.leading_blank pad rfl)

theorem IsGreedy.takePad_reverse_eq
    {leading trailing : Option Text}
    {body : List Text}
    (greedy : IsGreedy leading body trailing) :
    takePad (body ++ trailing.toList).reverse = (trailing, body.reverse) := by
  cases trailing with
  | none =>
      have solid : ∀ first ∈ body.reverse.head?, first.isBlank = false := by
        intro first member
        apply greedy.trailing_greedy rfl first
        simpa [List.head?_reverse] using member
      simpa using takePad_of_head? solid
  | some pad =>
      simpa using
        takePad_of_isBlank body.reverse (greedy.trailing_blank pad rfl)

/-- The region of some inner lines, by their greedy cut. -/
theorem IsGreedy.ofLines_eq
    {leading trailing : Option Text}
    {body : List Text}
    (greedy : IsGreedy leading body trailing)
    (name : Text)
    (version : Option Text)
    (openingLine closingLine : Text) :
    ofLines name version openingLine
        (leading.toList ++ (body ++ trailing.toList)) closingLine =
      { name
        version
        openingLine
        leadingPad := leading
        rawBody := body.flatten
        trailingPad := trailing
        closingLine } := by
  simp only [ofLines, greedy.takePad_eq, greedy.takePad_reverse_eq,
    List.reverse_reverse]

theorem flatten_toList
    (pad : Option Text) :
    pad.toList.flatten = pad.getD [] := by
  cases pad <;> simp

/-- The inner lines of a region are all there after the cut. -/
theorem render_ofLines
    (name : Text)
    (version : Option Text)
    (openingLine : Text)
    (inner : List Text)
    (closingLine : Text) :
    (ofLines name version openingLine inner closingLine).render =
      openingLine ++ inner.flatten ++ closingLine := by
  rcases exists_isGreedy inner with ⟨leading, body, trailing, greedy, rfl⟩
  rw [greedy.ofLines_eq]
  simp [render, flatten_toList, List.append_assoc]

end RegionSync.MarkedRegion
