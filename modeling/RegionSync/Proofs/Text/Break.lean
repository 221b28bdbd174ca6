import RegionSync.Proofs.Text.RawLine

/-!
# Breaks inside a text

Terminators are treated in several ways: a body is cut into lines, lines are
written with one line ending, breaks are folded into line feeds.  Each of
these works line by line, and `line_induction` is the induction that follows
them.  For every function there are two equations, one for a text without a
line feed and one for a text that starts with a full line.

`terminate_lines` puts the treatments together: writing the lines of a body
with a line ending is folding the breaks of the body and expanding the line
feeds.  From this follows what a body is after it was written and read back:
`foldBreaks_content_terminate_iff` says exactly when it is the same.
-/

namespace RegionSync

namespace Text

/-! ## One line after the other -/

/-- Induction on the lines of a text. -/
@[elab_as_elim]
theorem line_induction
    {motive : Text → Prop}
    (last : ∀ text : Text, '\n' ∉ text → motive text)
    (line :
      ∀ inner rest : Text,
        '\n' ∉ inner → motive rest → motive (inner ++ '\n' :: rest))
    (text : Text) :
    motive text := by
  -- A longer text has its first line feed behind fewer lines.
  have bounded :
      ∀ (bound : Nat) (text : Text), text.length ≤ bound → motive text := by
    intro bound
    induction bound with
    | zero =>
        intro text short
        have empty : text = [] := List.eq_nil_of_length_eq_zero (by omega)
        subst empty
        exact last [] (by simp)
    | succ bound ih =>
        intro text short
        by_cases feed : '\n' ∈ text
        · rcases List.eq_append_cons_of_mem feed with
            ⟨inner, rest, rfl, noFeed⟩
          simp only [List.length_append, List.length_cons] at short
          exact line inner rest noFeed (ih rest (by omega))
        · exact last text feed
  exact bounded text.length text (Nat.le_refl _)

theorem not_isComplete_of_append_feed
    {inner rest : Text}
    (incomplete : ¬IsComplete (inner ++ '\n' :: rest)) :
    ¬IsComplete rest := by
  intro complete
  have feed : IsComplete ('\n' :: rest) := by
    rcases complete with rfl | last
    · exact Or.inr rfl
    · exact Or.inr (by simp [List.getLast?_cons, last])
  exact incomplete (feed.append_right inner (by simp))

/-! ## The content of a line -/

theorem dropFinal_eq_self
    {char : Char}
    {text : Text}
    (other : text.getLast? ≠ some char) :
    dropFinal char text = text := by
  simp [dropFinal, other]

theorem exists_dropFinal_append
    (char : Char)
    (text : Text) :
    ∃ final,
      (final = [] ∨ final = [char]) ∧ dropFinal char text ++ final = text := by
  by_cases last : text.getLast? = some char
  · rcases List.getLast?_eq_some_iff.mp last with ⟨inner, rfl⟩
    exact ⟨[char], Or.inr rfl, by rw [dropFinal_append_self]⟩
  · exact ⟨[], Or.inl rfl, by rw [dropFinal_eq_self last, List.append_nil]⟩

theorem getLast?_ne_of_not_mem
    {char : Char}
    {text : Text}
    (absent : char ∉ text) :
    text.getLast? ≠ some char :=
  fun last => absent (List.mem_of_getLast? last)

theorem content_append_feed
    (inner : Text) :
    content (inner ++ ['\n']) = dropFinal '\r' inner := by
  simp [content]

theorem content_of_not_mem
    {line : Text}
    (noFeed : '\n' ∉ line) :
    content line = dropFinal '\r' line := by
  rw [content, dropFinal_eq_self (getLast?_ne_of_not_mem noFeed)]

theorem content_append_return_feed
    (inner : Text) :
    content (inner ++ ['\r', '\n']) = inner := by
  have shape : inner ++ ['\r', '\n'] = (inner ++ ['\r']) ++ ['\n'] := by simp
  rw [shape, content_append_feed, dropFinal_append_self]

theorem feed_not_mem_dropFinal
    {line : Text}
    (noFeed : '\n' ∉ line) :
    '\n' ∉ dropFinal '\r' line := by
  rw [dropFinal]
  split
  · exact fun member => noFeed (List.dropLast_subset line member)
  · exact noFeed

theorem IsLine.feed_not_mem_dropFinal
    {line : Text}
    (single : line.IsLine) :
    '\n' ∉ dropFinal '\n' line := by
  rcases single.eq_or_isFullLine with noFeed | ⟨inner, noFeed, rfl⟩
  · rwa [dropFinal_eq_self (getLast?_ne_of_not_mem noFeed)]
  · rwa [dropFinal_append_self]

theorem length_dropFinal_le
    (char : Char)
    (text : Text) :
    (dropFinal char text).length ≤ text.length := by
  rw [dropFinal]
  split <;> simp

theorem getLast?_ne_of_length_dropFinal
    {char : Char}
    {text : Text}
    (same : (dropFinal char text).length = text.length) :
    text.getLast? ≠ some char := by
  intro last
  have nonempty : text ≠ [] := by
    rintro rfl
    simp at last
  have positive := List.length_pos_iff.mpr nonempty
  rw [dropFinal, if_pos last, List.length_dropLast] at same
  omega

/-- A carriage return is white space, so taking one off leaves a line blank
or not. -/
theorem isBlank_dropFinal
    (line : Text) :
    isBlank (dropFinal '\r' line) = line.isBlank := by
  rw [dropFinal]
  split
  · rename_i last
    have white : isWhiteSpace '\r' = true := by decide
    rcases List.getLast?_eq_some_iff.mp last with ⟨inner, rfl⟩
    simp [isBlank, white]
  · rfl

/-! ## Cutting into lines -/

theorem lines_append_feed
    {inner : Text}
    (rest : Text)
    (noFeed : '\n' ∉ inner) :
    lines (inner ++ '\n' :: rest) = dropFinal '\r' inner :: lines rest := by
  rw [lines, rawLines_append_feed rest noFeed]
  simp [dropBreak, lines]

theorem lines_of_not_mem
    {text : Text}
    (nonempty : text ≠ [])
    (noFeed : '\n' ∉ text) :
    lines text = [text] := by
  rw [lines, rawLines_of_not_mem nonempty noFeed]
  simp [dropBreak, getLast?_ne_of_not_mem noFeed]

theorem feed_not_mem_of_mem_lines
    {text line : Text}
    (member : line ∈ text.lines) :
    '\n' ∉ line := by
  induction text using line_induction with
  | last text noFeed =>
      by_cases empty : text = []
      · subst empty
        simp at member
      · rw [lines_of_not_mem empty noFeed] at member
        rwa [List.mem_singleton.mp member]
  | line inner rest noFeed ih =>
      rw [lines_append_feed rest noFeed] at member
      rcases List.mem_cons.mp member with rfl | below
      · exact feed_not_mem_dropFinal noFeed
      · exact ih below

/-- A text that ends inside a line has one line more than line feeds. -/
theorem length_lines
    {text : Text}
    (incomplete : ¬IsComplete text) :
    text.lines.length = text.count '\n' + 1 := by
  induction text using line_induction with
  | last text noFeed =>
      have nonempty : text ≠ [] := fun empty => incomplete (Or.inl empty)
      rw [lines_of_not_mem nonempty noFeed, List.count_eq_zero.mpr noFeed]
      rfl
  | line inner rest noFeed ih =>
      have below := ih (not_isComplete_of_append_feed incomplete)
      rw [lines_append_feed rest noFeed, List.length_cons, below,
        List.count_append, List.count_cons_self,
        List.count_eq_zero.mpr noFeed]
      omega

/-! ## Folding breaks -/

theorem foldBreaks_of_not_mem
    {text : Text}
    (noFeed : '\n' ∉ text) :
    foldBreaks text = text := by
  fun_induction foldBreaks text with
  | case1 => rfl
  | case2 rest ih => simp at noFeed
  | case3 char rest _ ih =>
      rw [ih (fun member => noFeed (by simp [member]))]

theorem foldBreaks_append_feed
    {inner : Text}
    (rest : Text)
    (noFeed : '\n' ∉ inner) :
    foldBreaks (inner ++ '\n' :: rest) =
      dropFinal '\r' inner ++ '\n' :: foldBreaks rest := by
  induction inner with
  | nil => simp [foldBreaks]
  | cons char inner ih =>
      have below := ih (fun member => noFeed (by simp [member]))
      cases inner with
      | nil =>
          by_cases isReturn : char = '\r'
          · subst isReturn
            simp [foldBreaks, dropFinal]
          · simp [foldBreaks, dropFinal, isReturn]
      | cons next others =>
          have notFeed : next ≠ '\n' :=
            fun same => noFeed (by simp [same])
          have step :
              foldBreaks (char :: next :: (others ++ '\n' :: rest)) =
                char :: foldBreaks (next :: (others ++ '\n' :: rest)) := by
            rw [foldBreaks]
            intro more _ same
            exact notFeed (List.cons.inj same).1
          have final :
              dropFinal '\r' (char :: next :: others) =
                char :: dropFinal '\r' (next :: others) := by
            simp only [dropFinal, List.getLast?_cons_cons,
              List.dropLast_cons_cons]
            split <;> rfl
          rw [List.cons_append, List.cons_append, step, final]
          simpa using below

theorem count_feed_foldBreaks (text : Text) :
    (foldBreaks text).count '\n' = text.count '\n' := by
  fun_induction foldBreaks text with
  | case1 => rfl
  | case2 rest ih => simp [ih]
  | case3 char rest _ ih => simp [List.count_cons, ih]

theorem length_foldBreaks_le (text : Text) :
    (foldBreaks text).length ≤ text.length := by
  fun_induction foldBreaks text with
  | case1 => simp
  | case2 rest ih => simp only [List.length_cons]; omega
  | case3 char rest _ ih => simp only [List.length_cons]; omega

theorem foldBreaks_eq_self
    {text : Text}
    (noBreak : text.hasCrlf = false) :
    foldBreaks text = text := by
  fun_induction foldBreaks text with
  | case1 => rfl
  | case2 rest ih => simp [hasCrlf] at noBreak
  | case3 char rest different ih =>
      rw [hasCrlf] at noBreak
      · rw [ih noBreak]
      · exact different

/-- Every break that is folded makes the text shorter. -/
theorem hasCrlf_eq_false_of_length
    {text : Text}
    (same : (foldBreaks text).length = text.length) :
    text.hasCrlf = false := by
  fun_induction foldBreaks text with
  | case1 => rfl
  | case2 rest ih =>
      have shorter := length_foldBreaks_le rest
      simp only [List.length_cons] at same
      omega
  | case3 char rest different ih =>
      rw [hasCrlf]
      · exact ih (by simpa using same)
      · exact different

/-! ## Where breaks stand -/

theorem hasCrlf_of_not_mem
    {text : Text}
    (noFeed : '\n' ∉ text) :
    text.hasCrlf = false :=
  hasCrlf_eq_false_of_length (by rw [foldBreaks_of_not_mem noFeed])

/-- No break stands across the end of a complete text. -/
theorem IsComplete.hasCrlf_append
    {left : Text}
    (complete : IsComplete left)
    (right : Text) :
    hasCrlf (left ++ right) = (left.hasCrlf || right.hasCrlf) := by
  induction left with
  | nil => simp [hasCrlf]
  | cons char rest ih =>
      have below := ih complete.of_cons
      cases rest with
      | nil =>
          have feed : char = '\n' := by simpa [IsComplete] using complete
          subst feed
          simp [hasCrlf]
      | cons next others =>
          by_cases isBreak : char = '\r' ∧ next = '\n'
          · rcases isBreak with ⟨rfl, rfl⟩
            simp [hasCrlf]
          · have step (text : Text) :
                hasCrlf (char :: next :: text) = hasCrlf (next :: text) := by
              rw [hasCrlf]
              intro more isReturn same
              exact isBreak ⟨isReturn, (List.cons.inj same).1⟩
            rw [List.cons_append, List.cons_append, step, step]
            exact below

theorem hasCrlf_append_feed
    {inner : Text}
    (rest : Text)
    (noFeed : '\n' ∉ inner)
    (noReturn : inner.getLast? ≠ some '\r') :
    hasCrlf (inner ++ '\n' :: rest) = rest.hasCrlf := by
  have full : IsFullLine (inner ++ ['\n']) := ⟨inner, noFeed, rfl⟩
  have first : hasCrlf (inner ++ ['\n']) = false := by
    apply hasCrlf_eq_false_of_length
    rw [foldBreaks_append_feed [] noFeed, dropFinal_eq_self noReturn]
    rfl
  have whole := full.isComplete.hasCrlf_append rest
  rw [first, Bool.false_or] at whole
  simpa using whole

theorem noReturn_of_hasCrlf_append_feed
    {inner rest : Text}
    (noFeed : '\n' ∉ inner)
    (noBreak : hasCrlf (inner ++ '\n' :: rest) = false) :
    inner.getLast? ≠ some '\r' := by
  have same := foldBreaks_eq_self noBreak
  rw [foldBreaks_append_feed rest noFeed] at same
  have sizes := congrArg List.length same
  have firstSize := length_dropFinal_le '\r' inner
  have restSize := length_foldBreaks_le rest
  simp only [List.length_append, List.length_cons] at sizes
  exact getLast?_ne_of_length_dropFinal (by omega)

theorem hasCrlf_append_final_feed
    {text : Text}
    (noBreak : text.hasCrlf = false)
    (noReturn : text.getLast? ≠ some '\r') :
    hasCrlf (text ++ ['\n']) = false := by
  induction text using line_induction with
  | last text noFeed =>
      rw [hasCrlf_append_feed [] noFeed noReturn]
      rfl
  | line inner rest noFeed ih =>
      have innerNoReturn := noReturn_of_hasCrlf_append_feed noFeed noBreak
      rw [hasCrlf_append_feed rest noFeed innerNoReturn] at noBreak
      rw [List.append_assoc, List.cons_append,
        hasCrlf_append_feed _ noFeed innerNoReturn]
      by_cases empty : rest = []
      · subst empty
        rfl
      · refine ih noBreak ?_
        intro last
        apply noReturn
        simp [List.getLast?_append, List.getLast?_cons, last]

theorem hasCrlf_append_return_feed
    {inner : Text}
    (noFeed : '\n' ∉ inner) :
    hasCrlf (inner ++ ['\r', '\n']) = true := by
  cases answer : hasCrlf (inner ++ ['\r', '\n']) with
  | true => rfl
  | false =>
      have shape :
          inner ++ ['\r', '\n'] = (inner ++ ['\r']) ++ '\n' :: [] := by simp
      rw [shape] at answer
      have noReturn :=
        noReturn_of_hasCrlf_append_feed (by simp [noFeed]) answer
      simp at noReturn

theorem lines_eq_splitOn
    {text : Text}
    (incomplete : ¬IsComplete text)
    (noBreak : text.hasCrlf = false) :
    text.lines = text.splitOn '\n' := by
  induction text using line_induction with
  | last text noFeed =>
      have nonempty : text ≠ [] := fun empty => incomplete (Or.inl empty)
      rw [lines_of_not_mem nonempty noFeed, List.splitOn_eq_singleton noFeed]
  | line inner rest noFeed ih =>
      have noReturn := noReturn_of_hasCrlf_append_feed noFeed noBreak
      rw [hasCrlf_append_feed rest noFeed noReturn] at noBreak
      rw [lines_append_feed rest noFeed, dropFinal_eq_self noReturn,
        List.splitOn_append_cons_self_of_not_mem noFeed,
        ih (not_isComplete_of_append_feed incomplete) noBreak]

/-- A CRLF stands where a piece in front of a line feed ends in a carriage
return. -/
theorem hasCrlf_eq_false_iff_splitOn
    {text : Text} :
    text.hasCrlf = false ↔
      ∀ line ∈ (text.splitOn '\n').dropLast, line.getLast? ≠ some '\r' := by
  induction text using line_induction with
  | last text noFeed =>
      simp [hasCrlf_of_not_mem noFeed, List.splitOn_eq_singleton noFeed]
  | line inner rest noFeed ih =>
      rw [List.splitOn_append_cons_self_of_not_mem noFeed,
        List.dropLast_cons_of_ne_nil (List.splitOn_ne_nil '\n' rest),
        List.forall_mem_cons, ← ih]
      constructor
      · intro noBreak
        have noReturn := noReturn_of_hasCrlf_append_feed noFeed noBreak
        rw [hasCrlf_append_feed rest noFeed noReturn] at noBreak
        exact ⟨noReturn, noBreak⟩
      · rintro ⟨noReturn, noBreak⟩
        rw [hasCrlf_append_feed rest noFeed noReturn, noBreak]

theorem getLast?_ne_return_of_splitOn
    {text : Text}
    (noReturn : ∀ line ∈ text.splitOn '\n', line.getLast? ≠ some '\r') :
    text.getLast? ≠ some '\r' := by
  induction text using line_induction with
  | last text noFeed =>
      rw [List.splitOn_eq_singleton noFeed] at noReturn
      exact noReturn text (by simp)
  | line inner rest noFeed ih =>
      rw [List.splitOn_append_cons_self_of_not_mem noFeed] at noReturn
      have below := ih (List.forall_mem_cons.mp noReturn).2
      rw [List.getLast?_append, List.getLast?_cons]
      cases ended : rest.getLast? with
      | none => simp
      | some char => simpa [ended] using below

/-! ## Expanding line feeds -/

/-- Every line feed of a text as a CRLF. -/
def expandFeeds (text : Text) : Text :=
  text.flatMap fun char => if char = '\n' then ['\r', '\n'] else [char]

theorem expandFeeds_of_not_mem
    {text : Text}
    (noFeed : '\n' ∉ text) :
    expandFeeds text = text := by
  induction text with
  | nil => rfl
  | cons char rest ih =>
      have notFeed : char ≠ '\n' :=
        fun same => noFeed (by simp [same])
      have below := ih (fun member => noFeed (by simp [member]))
      rw [expandFeeds] at below ⊢
      rw [List.flatMap_cons, below, if_neg notFeed]
      rfl

theorem expandFeeds_append_feed
    {inner : Text}
    (rest : Text)
    (noFeed : '\n' ∉ inner) :
    expandFeeds (inner ++ '\n' :: rest) =
      inner ++ '\r' :: '\n' :: expandFeeds rest := by
  have front := expandFeeds_of_not_mem noFeed
  rw [expandFeeds] at front
  simp [expandFeeds, front]

/-- Folding undoes expanding, also where carriage returns already stood. -/
theorem foldBreaks_expandFeeds (text : Text) :
    foldBreaks (expandFeeds text) = text := by
  induction text using line_induction with
  | last text noFeed =>
      rw [expandFeeds_of_not_mem noFeed, foldBreaks_of_not_mem noFeed]
  | line inner rest noFeed ih =>
      have shape :
          inner ++ '\r' :: '\n' :: expandFeeds rest =
            (inner ++ ['\r']) ++ '\n' :: expandFeeds rest := by simp
      rw [expandFeeds_append_feed rest noFeed, shape,
        foldBreaks_append_feed _ (by simp [noFeed]), dropFinal_append_self,
        ih]

end Text

namespace LineEnding

/-! ## Writing lines -/

/-- A text with its line feeds written as this line ending. -/
def convert : LineEnding → Text → Text
  | lf, text => text
  | crlf, text => text.expandFeeds

theorem convert_of_not_mem
    (ending : LineEnding)
    {text : Text}
    (noFeed : '\n' ∉ text) :
    ending.convert text = text := by
  cases ending with
  | lf => rfl
  | crlf => exact Text.expandFeeds_of_not_mem noFeed

theorem convert_append_feed
    (ending : LineEnding)
    {inner : Text}
    (rest : Text)
    (noFeed : '\n' ∉ inner) :
    ending.convert (inner ++ '\n' :: rest) =
      inner ++ (ending.text ++ ending.convert rest) := by
  cases ending with
  | lf => rfl
  | crlf => exact Text.expandFeeds_append_feed rest noFeed

theorem isFullLine_append_text
    (ending : LineEnding)
    {line : Text}
    (noFeed : '\n' ∉ line) :
    Text.IsFullLine (line ++ ending.text) := by
  cases ending with
  | lf => exact ⟨line, noFeed, rfl⟩
  | crlf => exact ⟨line ++ ['\r'], by simp [noFeed], by simp [text]⟩

theorem terminate_eq_flatten
    (ending : LineEnding)
    (lines : List Text) :
    ending.terminate lines =
      (lines.map fun line => line ++ ending.text).flatten := by
  rw [terminate, List.flatMap_def]

theorem rawLines_terminate
    (ending : LineEnding)
    {lines : List Text}
    (noFeed : ∀ line ∈ lines, '\n' ∉ line) :
    (ending.terminate lines).rawLines =
      lines.map fun line => line ++ ending.text := by
  rw [terminate_eq_flatten]
  apply Text.rawLines_flatten
  intro line member
  rcases List.mem_map.mp member with ⟨inner, inside, rfl⟩
  exact ending.isFullLine_append_text (noFeed inner inside)

theorem isComplete_terminate
    (ending : LineEnding)
    {lines : List Text}
    (noFeed : ∀ line ∈ lines, '\n' ∉ line) :
    (ending.terminate lines).IsComplete := by
  rw [terminate_eq_flatten]
  apply Text.isComplete_flatten
  intro line member
  rcases List.mem_map.mp member with ⟨inner, inside, rfl⟩
  exact ending.isFullLine_append_text (noFeed inner inside)

/-- Writing the lines of a text folds its breaks and then writes each line
feed as the line ending. -/
theorem terminate_lines
    (ending : LineEnding)
    {body : Text}
    (incomplete : ¬body.IsComplete) :
    ending.terminate body.lines =
      ending.convert (body.foldBreaks ++ ['\n']) := by
  induction body using Text.line_induction with
  | last body noFeed =>
      have nonempty : body ≠ [] := fun empty => incomplete (Or.inl empty)
      rw [Text.lines_of_not_mem nonempty noFeed,
        Text.foldBreaks_of_not_mem noFeed,
        ending.convert_append_feed [] noFeed,
        ending.convert_of_not_mem (by simp)]
      simp [terminate]
  | line inner rest noFeed ih =>
      have below := ih (Text.not_isComplete_of_append_feed incomplete)
      rw [Text.lines_append_feed rest noFeed,
        Text.foldBreaks_append_feed rest noFeed, List.append_assoc,
        List.cons_append,
        ending.convert_append_feed _ (Text.feed_not_mem_dropFinal noFeed),
        ← below]
      simp [terminate]

/-- What is left of the written lines of a body when the last terminator is
taken off and breaks are read as line feeds. -/
theorem foldBreaks_content_terminate
    (ending : LineEnding)
    {body : Text}
    (incomplete : ¬body.IsComplete) :
    (ending.terminate body.lines).content.foldBreaks =
      match ending with
      | lf => (Text.dropFinal '\r' body.foldBreaks).foldBreaks
      | crlf => body.foldBreaks := by
  rw [ending.terminate_lines incomplete]
  cases ending with
  | lf =>
      simp only [convert]
      rw [Text.content_append_feed]
  | crlf =>
      have shape :
          Text.expandFeeds (body.foldBreaks ++ ['\n']) =
            Text.expandFeeds body.foldBreaks ++ ['\r', '\n'] := by
        simp [Text.expandFeeds]
      simp only [convert]
      rw [shape, Text.content_append_return_feed,
        Text.foldBreaks_expandFeeds]

/-- Whether a body is the same after it was written with this ending and read
back: it holds no CRLF and, if line feeds are written, no carriage return at
its end. -/
def Carries (ending : LineEnding) (body : Text) : Prop :=
  body.hasCrlf = false ∧ (ending = lf → body.getLast? ≠ some '\r')

instance (ending : LineEnding) (body : Text) :
    Decidable (ending.Carries body) :=
  inferInstanceAs
    (Decidable
      (body.hasCrlf = false ∧ (ending = lf → body.getLast? ≠ some '\r')))

/-- A body is the same after writing and reading exactly if the ending
carries it. -/
theorem foldBreaks_content_terminate_iff
    (ending : LineEnding)
    {body : Text}
    (unended : body.getLast? ≠ some '\n') :
    (ending.terminate body.lines).content.foldBreaks = body ↔
      ending.Carries body := by
  by_cases empty : body = []
  · subst empty
    cases ending <;> simp [terminate, Text.content, Text.foldBreaks,
      Carries, Text.hasCrlf]
  have incomplete := Text.not_isComplete_of_unended empty unended
  rw [ending.foldBreaks_content_terminate incomplete]
  have folded := Text.length_foldBreaks_le body
  cases ending with
  | lf =>
      have dropped := Text.length_dropFinal_le '\r' body.foldBreaks
      have refolded :=
        Text.length_foldBreaks_le (Text.dropFinal '\r' body.foldBreaks)
      constructor
      · intro same
        -- None of the three steps has taken a character away.
        have sizes := congrArg List.length same
        simp only at sizes
        have noBreak : body.hasCrlf = false :=
          Text.hasCrlf_eq_false_of_length (by omega)
        rw [Text.foldBreaks_eq_self noBreak] at dropped refolded sizes
        exact ⟨noBreak, fun _ =>
          Text.getLast?_ne_of_length_dropFinal (by omega)⟩
      · rintro ⟨noBreak, last⟩
        simp only [Text.foldBreaks_eq_self noBreak,
          Text.dropFinal_eq_self (last rfl)]
  | crlf =>
      constructor
      · intro same
        have sizes := congrArg List.length same
        exact ⟨Text.hasCrlf_eq_false_of_length sizes, by simp⟩
      · rintro ⟨noBreak, -⟩
        exact Text.foldBreaks_eq_self noBreak

/-- Every ending carries a body of which no line ends in a carriage return. -/
theorem carries_of_splitOn
    (ending : LineEnding)
    {body : Text}
    (noReturn : ∀ line ∈ body.splitOn '\n', line.getLast? ≠ some '\r') :
    ending.Carries body := by
  refine ⟨?_, fun _ => Text.getLast?_ne_return_of_splitOn noReturn⟩
  rw [Text.hasCrlf_eq_false_iff_splitOn]
  intro line member
  exact noReturn line (List.dropLast_subset _ member)

end LineEnding

end RegionSync
