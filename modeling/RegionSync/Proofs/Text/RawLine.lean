import RegionSync.Text.Line

/-!
# Cutting a text into raw lines

A raw line is read up to and with its line feed.  `IsFullLine` says that a
text is one raw line with its line feed, and `IsLine` that it is one raw line,
with or without.  Only the last raw line of a text may lack the line feed,
which is what `AreLines` says of a list of lines.

A text is complete if whatever is written behind it starts a new line.  The
main statement is that cutting distributes over a concatenation whose first
part is complete: a document that is put together from complete parts is cut
at the borders of the parts.
-/

namespace RegionSync.Text

/-! ## Complete texts and full lines -/

/-- Whether what is written behind a text starts a new line. -/
def IsComplete (text : Text) : Prop :=
  text = [] ∨ text.getLast? = some '\n'

/-- One raw line together with its line feed. -/
def IsFullLine (line : Text) : Prop :=
  ∃ inner : Text, '\n' ∉ inner ∧ line = inner ++ ['\n']

/-- One raw line, with or without a line feed at its end. -/
def IsLine (line : Text) : Prop :=
  line.rawLines = [line]

@[simp]
theorem isComplete_nil : IsComplete [] :=
  Or.inl rfl

theorem IsFullLine.isComplete
    {line : Text}
    (full : IsFullLine line) :
    IsComplete line := by
  rcases full with ⟨inner, -, rfl⟩
  exact Or.inr (by simp)

theorem IsFullLine.ne_nil
    {line : Text}
    (full : IsFullLine line) :
    line ≠ [] := by
  rcases full with ⟨inner, -, rfl⟩
  simp

theorem not_isComplete_of_unended
    {text : Text}
    (nonempty : text ≠ [])
    (unended : text.getLast? ≠ some '\n') :
    ¬IsComplete text := by
  rintro (empty | ended)
  · exact nonempty empty
  · exact unended ended

theorem IsComplete.append
    {left right : Text}
    (leftComplete : IsComplete left)
    (rightComplete : IsComplete right) :
    IsComplete (left ++ right) := by
  rcases rightComplete with rfl | last
  · simpa using leftComplete
  · exact Or.inr (by simp [List.getLast?_append, last])

theorem IsComplete.append_right
    {right : Text}
    (left : Text)
    (nonempty : right ≠ [])
    (complete : IsComplete right) :
    IsComplete (left ++ right) := by
  rcases complete with rfl | last
  · exact absurd rfl nonempty
  · exact Or.inr (by simp [List.getLast?_append, last])

theorem IsComplete.of_cons
    {char : Char}
    {rest : Text}
    (complete : IsComplete (char :: rest)) :
    IsComplete rest := by
  rcases complete with absurdity | last
  · simp at absurdity
  · cases rest with
    | nil => exact Or.inl rfl
    | cons next others =>
        exact Or.inr (by simpa using last)

/-! ## Cutting -/

@[simp]
theorem rawLines_nil : rawLines [] = [] :=
  rfl

theorem rawLines_feed
    (rest : Text) :
    rawLines ('\n' :: rest) = ['\n'] :: rawLines rest := by
  simp [rawLines]

theorem rawLines_cons_of_ne
    {char : Char}
    {rest line : Text}
    {others : List Text}
    (notFeed : char ≠ '\n')
    (cut : rawLines rest = line :: others) :
    rawLines (char :: rest) = (char :: line) :: others := by
  simp [rawLines, notFeed, cut]

@[simp]
theorem rawLines_eq_nil_iff
    {text : Text} :
    rawLines text = [] ↔ text = [] := by
  constructor
  · intro none_cut
    have flat := flatten_rawLines text
    rw [none_cut] at flat
    simpa using flat.symm
  · rintro rfl
    rfl

theorem rawLines_append_feed
    {inner : Text}
    (rest : Text)
    (noFeed : '\n' ∉ inner) :
    rawLines (inner ++ '\n' :: rest) = (inner ++ ['\n']) :: rawLines rest := by
  induction inner with
  | nil => exact rawLines_feed rest
  | cons char inner ih =>
      have notFeed : char ≠ '\n' :=
        fun same => noFeed (by simp [same])
      have cut := ih (fun member => noFeed (by simp [member]))
      exact rawLines_cons_of_ne notFeed cut

theorem rawLines_of_not_mem
    {text : Text}
    (nonempty : text ≠ [])
    (noFeed : '\n' ∉ text) :
    rawLines text = [text] := by
  induction text with
  | nil => exact absurd rfl nonempty
  | cons char rest ih =>
      have notFeed : char ≠ '\n' :=
        fun same => noFeed (by simp [same])
      cases rest with
      | nil => simp [rawLines, notFeed]
      | cons next others =>
          have cut :=
            ih (by simp) (fun member => noFeed (by simp [member]))
          exact rawLines_cons_of_ne notFeed cut

theorem IsFullLine.rawLines_append
    {line : Text}
    (full : IsFullLine line)
    (rest : Text) :
    rawLines (line ++ rest) = line :: rawLines rest := by
  rcases full with ⟨inner, noFeed, rfl⟩
  simpa using rawLines_append_feed rest noFeed

theorem IsFullLine.isLine
    {line : Text}
    (full : IsFullLine line) :
    IsLine line := by
  simpa [IsLine] using full.rawLines_append []

theorem IsLine.ne_nil
    {line : Text}
    (single : IsLine line) :
    line ≠ [] := by
  rintro rfl
  simp [IsLine] at single

theorem IsLine.eq_or_isFullLine
    {line : Text}
    (single : IsLine line) :
    '\n' ∉ line ∨ IsFullLine line := by
  by_cases feed : '\n' ∈ line
  · refine Or.inr ?_
    rcases List.eq_append_cons_of_mem feed with ⟨inner, rest, rfl, noFeed⟩
    have cut : rawLines (inner ++ '\n' :: rest) = [inner ++ '\n' :: rest] :=
      single
    rw [rawLines_append_feed rest noFeed, List.cons.injEq] at cut
    exact ⟨inner, noFeed, cut.1.symm⟩
  · exact Or.inl feed

/-- Cutting distributes over a concatenation behind a complete text. -/
theorem IsComplete.rawLines_append
    {left : Text}
    (complete : IsComplete left)
    (right : Text) :
    rawLines (left ++ right) = rawLines left ++ rawLines right := by
  induction left with
  | nil => rfl
  | cons char rest ih =>
      have cut := ih complete.of_cons
      by_cases feed : char = '\n'
      · subst feed
        simp [rawLines_feed, cut]
      · -- The text goes on behind `char`, since `char` is not its line feed.
        have nonempty : rest ≠ [] := by
          rintro rfl
          simp [IsComplete, feed] at complete
        rcases List.exists_cons_of_ne_nil
            (fun none_cut => nonempty (rawLines_eq_nil_iff.mp none_cut)) with
          ⟨line, others, lines⟩
        rw [lines] at cut
        rw [rawLines_cons_of_ne feed lines, List.cons_append]
        exact rawLines_cons_of_ne feed cut

/-! ## Lists of lines -/

/-- Raw lines of which only the last may lack its line feed. -/
def AreLines : List Text → Prop
  | [] => True
  | line :: rest =>
      IsLine line ∧ (rest ≠ [] → IsFullLine line) ∧ AreLines rest

theorem areLines_rawLines (text : Text) : AreLines (rawLines text) := by
  induction text with
  | nil => trivial
  | cons char rest ih =>
      by_cases feed : char = '\n'
      · subst feed
        have full : IsFullLine ['\n'] := ⟨[], by simp, rfl⟩
        rw [rawLines_feed]
        exact ⟨full.isLine, fun _ => full, ih⟩
      · cases cut : rawLines rest with
        | nil =>
            have empty := rawLines_eq_nil_iff.mp cut
            subst empty
            have single : rawLines [char] = [[char]] :=
              rawLines_of_not_mem (by simp) (by simp [Ne.symm feed])
            rw [single]
            exact ⟨single, by simp, trivial⟩
        | cons line others =>
            rw [cut] at ih
            rcases ih with ⟨single, full, below⟩
            rw [rawLines_cons_of_ne feed cut]
            refine ⟨rawLines_cons_of_ne feed single, ?_, below⟩
            intro more
            rcases full more with ⟨inner, noFeed, rfl⟩
            exact ⟨char :: inner, by simp [Ne.symm feed, noFeed], rfl⟩

theorem rawLines_flatten
    {lines : List Text}
    (full : ∀ line ∈ lines, IsFullLine line) :
    rawLines lines.flatten = lines := by
  induction lines with
  | nil => rfl
  | cons line rest ih =>
      have cut := ih (fun other member => full other (by simp [member]))
      rw [List.flatten_cons, (full line (by simp)).rawLines_append, cut]

theorem isComplete_flatten
    {lines : List Text}
    (full : ∀ line ∈ lines, IsFullLine line) :
    IsComplete lines.flatten := by
  induction lines with
  | nil => exact Or.inl rfl
  | cons line rest ih =>
      exact (full line (by simp)).isComplete.append
        (ih (fun other member => full other (by simp [member])))

theorem count_feed_flatten
    {lines : List Text}
    (full : ∀ line ∈ lines, IsFullLine line) :
    lines.flatten.count '\n' = lines.length := by
  induction lines with
  | nil => rfl
  | cons line rest ih =>
      rcases List.forall_mem_cons.mp full with ⟨first, below⟩
      rcases first with ⟨inner, noFeed, rfl⟩
      rw [List.flatten_cons, List.count_append, ih below, List.count_append,
        List.count_eq_zero_of_not_mem noFeed]
      simp [Nat.add_comm]

theorem AreLines.rawLines_flatten
    {lines : List Text}
    (cut : AreLines lines) :
    rawLines lines.flatten = lines := by
  induction lines with
  | nil => rfl
  | cons line rest ih =>
      rcases cut with ⟨single, full, below⟩
      by_cases more : rest = []
      · subst more
        simpa [IsLine] using single
      · rw [List.flatten_cons, (full more).rawLines_append, ih below]

theorem AreLines.full_of_append
    {front behind : List Text}
    (cut : AreLines (front ++ behind))
    (more : behind ≠ []) :
    ∀ line ∈ front, IsFullLine line := by
  induction front with
  | nil => simp
  | cons line rest ih =>
      rcases cut with ⟨-, full, below⟩
      exact List.forall_mem_cons.mpr ⟨full (by simp [more]), ih below⟩

theorem AreLines.of_append
    {front behind : List Text}
    (cut : AreLines (front ++ behind)) :
    AreLines behind := by
  induction front with
  | nil => exact cut
  | cons line rest ih => exact ih cut.2.2

/-! ## Pieces between separators -/

theorem not_mem_of_mem_splitOn
    {text piece : Text}
    {separator : Char}
    (member : piece ∈ text.splitOn separator) :
    separator ∉ piece := by
  induction text generalizing piece with
  | nil =>
      rw [List.mem_singleton.mp member]
      exact List.not_mem_nil
  | cons first rest ih =>
      unfold List.splitOn at member ih
      rw [List.splitOnP_cons_eq_if_modifyHead] at member
      split at member
      case isTrue =>
        rcases List.mem_cons.mp member with rfl | below
        · exact List.not_mem_nil
        · exact ih below
      case isFalse different =>
        cases pieces : rest.splitOnP (· == separator) with
        | nil =>
            rw [pieces] at member
            cases member
        | cons head others =>
            rw [pieces] at member ih
            rcases List.mem_cons.mp member with rfl | below
            · have inner := ih List.mem_cons_self
              have unequal : separator ≠ first := by
                rintro rfl
                exact different (beq_self_eq_true separator)
              simp [unequal, inner]
            · exact ih (List.mem_cons_of_mem _ below)

end RegionSync.Text
