import Mathlib.Logic.Function.Iterate
import RegionSync.Proofs.Region.Replacing

/-!
# Lost carriage returns

A body passes through several treatments between a section and the comparison
that tells whether a region has drifted: it is cut into lines, the lines are
written with a terminator, the last terminator is taken off, and breaks are
folded.  Each of them may take a carriage return off the end of a line, and
none changes anything else.

`splitOn_body_replaceWith` is the account, line by line.  As far as they have
them, the last line loses one carriage return if line feeds are written and
none with CRLF, and every other line loses one more than the last.  So a
region that was written a moment ago has drifted exactly if some line had a
carriage return to lose, which is `current_after_rewrite_iff`.
-/

namespace RegionSync

namespace Text

/-! ## Taking carriage returns off lines -/

theorem length_iterate_dropFinal_le
    (char : Char)
    (count : Nat)
    (line : Text) :
    ((dropFinal char)^[count] line).length ≤ line.length := by
  induction count generalizing line with
  | zero => exact Nat.le_refl _
  | succ count ih =>
      rw [Function.iterate_succ_apply]
      exact (ih (dropFinal char line)).trans (length_dropFinal_le char line)

/-- A line stays the same if nothing is taken off or there is nothing to take
off. -/
theorem iterate_dropFinal_eq_self_iff
    {char : Char}
    {count : Nat}
    {line : Text} :
    (dropFinal char)^[count] line = line ↔
      (0 < count → line.getLast? ≠ some char) := by
  cases count with
  | zero => simp
  | succ count =>
      constructor
      · intro same _
        apply getLast?_ne_of_length_dropFinal
        have first := length_dropFinal_le char line
        have others := length_iterate_dropFinal_le char count
          (dropFinal char line)
        rw [← Function.iterate_succ_apply, same] at others
        omega
      · intro other
        exact Function.iterate_fixed
          (dropFinal_eq_self (other (Nat.succ_pos count))) _

/-- Lines without the last carriage returns of each: up to `last` are taken
off the last line and up to `inner` off every other one. -/
def dropReturns (inner last : Nat) : List Text → List Text
  | [] => []
  | [line] => [(dropFinal '\r')^[last] line]
  | line :: next :: rest =>
      (dropFinal '\r')^[inner] line :: dropReturns inner last (next :: rest)

theorem dropReturns_cons
    {rest : List Text}
    (nonempty : rest ≠ [])
    (inner last : Nat)
    (line : Text) :
    dropReturns inner last (line :: rest) =
      (dropFinal '\r')^[inner] line :: dropReturns inner last rest := by
  rcases List.exists_cons_of_ne_nil nonempty with ⟨next, others, rfl⟩
  rfl

theorem dropReturns_dropReturns
    (inner last moreInner moreLast : Nat)
    (lines : List Text) :
    dropReturns moreInner moreLast (dropReturns inner last lines) =
      dropReturns (moreInner + inner) (moreLast + last) lines := by
  induction lines with
  | nil => rfl
  | cons line rest ih =>
      cases rest with
      | nil => simp [dropReturns, Function.iterate_add_apply]
      | cons next others =>
          have nonempty : dropReturns inner last (next :: others) ≠ [] := by
            cases others <;> simp [dropReturns]
          rw [dropReturns, dropReturns_cons nonempty, ih, dropReturns,
            Function.iterate_add_apply]

/-- No line changes if there is no carriage return where some are taken
off. -/
theorem dropReturns_eq_self_iff
    {inner last : Nat}
    {lines : List Text} :
    dropReturns inner last lines = lines ↔
      (0 < inner → ∀ line ∈ lines.dropLast, line.getLast? ≠ some '\r') ∧
        (0 < last → ∀ line ∈ lines.getLast?, line.getLast? ≠ some '\r') := by
  induction lines with
  | nil => simp [dropReturns]
  | cons line rest ih =>
      cases rest with
      | nil => simp [dropReturns, iterate_dropFinal_eq_self_iff]
      | cons next others =>
          rw [dropReturns, List.cons.injEq, ih, iterate_dropFinal_eq_self_iff,
            List.dropLast_cons_cons, List.forall_mem_cons,
            List.getLast?_cons_cons, imp_and, and_assoc]

/-! ## What the treatments take off -/

theorem dropFinal_return_append_feed
    (inner rest : Text) :
    dropFinal '\r' (inner ++ '\n' :: rest) =
      inner ++ '\n' :: dropFinal '\r' rest := by
  by_cases last : rest.getLast? = some '\r'
  · rcases List.getLast?_eq_some_iff.mp last with ⟨front, rfl⟩
    have shape :
        inner ++ '\n' :: (front ++ ['\r']) =
          (inner ++ '\n' :: front) ++ ['\r'] := by simp
    rw [shape, dropFinal_append_self, dropFinal_append_self]
  · have other : (inner ++ '\n' :: rest).getLast? ≠ some '\r' := by
      rw [List.getLast?_append, List.getLast?_cons]
      cases ended : rest.getLast? with
      | none => simp
      | some char => simpa [ended] using last
    rw [dropFinal_eq_self last, dropFinal_eq_self other]

theorem splitOn_dropFinal (text : Text) :
    (dropFinal '\r' text).splitOn '\n' =
      dropReturns 0 1 (text.splitOn '\n') := by
  induction text using line_induction with
  | last text noFeed =>
      rw [List.splitOn_eq_singleton noFeed,
        List.splitOn_eq_singleton (feed_not_mem_dropFinal noFeed)]
      rfl
  | line inner rest noFeed ih =>
      rw [dropFinal_return_append_feed,
        List.splitOn_append_cons_self_of_not_mem noFeed,
        List.splitOn_append_cons_self_of_not_mem noFeed,
        dropReturns_cons (List.splitOn_ne_nil '\n' rest), ih]
      rfl

theorem splitOn_foldBreaks (text : Text) :
    (foldBreaks text).splitOn '\n' =
      dropReturns 1 0 (text.splitOn '\n') := by
  induction text using line_induction with
  | last text noFeed =>
      rw [foldBreaks_of_not_mem noFeed, List.splitOn_eq_singleton noFeed]
      rfl
  | line inner rest noFeed ih =>
      rw [foldBreaks_append_feed rest noFeed,
        List.splitOn_append_cons_self_of_not_mem noFeed,
        List.splitOn_append_cons_self_of_not_mem
          (feed_not_mem_dropFinal noFeed),
        dropReturns_cons (List.splitOn_ne_nil '\n' rest), ih]
      rfl

end Text

/-! ## Writing a body and reading it again -/

/-- How many carriage returns the last line of a body loses when the body is
written and read again. -/
def LineEnding.lastLoss : LineEnding → Nat
  | lf => 1
  | crlf => 0

namespace MarkedRegion

variable {canonical : Section}

/-- What a region says after it was written, line by line: every line but the
last loses one carriage return more than the last one. -/
theorem splitOn_body_replaceWith
    (region : MarkedRegion)
    (normal : Section.IsNormalBody canonical.body)
    (ending : LineEnding) :
    (region.replaceWith canonical ending).body.foldBreaks.splitOn '\n' =
      Text.dropReturns (ending.lastLoss + 1) ending.lastLoss
        (canonical.body.splitOn '\n') := by
  change (ending.terminate canonical.body.lines).content.foldBreaks.splitOn _ =
    _
  by_cases empty : canonical.body = []
  · rw [empty]
    cases ending <;> rfl
  · have incomplete := Text.not_isComplete_of_unended empty normal.unended
    rw [ending.foldBreaks_content_terminate incomplete]
    cases ending with
    | lf =>
        simp only
        rw [Text.splitOn_foldBreaks, Text.splitOn_dropFinal,
          Text.splitOn_foldBreaks, Text.dropReturns_dropReturns,
          Text.dropReturns_dropReturns]
        rfl
    | crlf =>
        simp only
        rw [Text.splitOn_foldBreaks]
        rfl

/-- A region that was written a moment ago is current if no line had a
carriage return to lose. -/
theorem isDriftedFrom_replaceWith_iff_splitOn
    (region : MarkedRegion)
    (normal : Section.IsNormalBody canonical.body)
    (ending : LineEnding) :
    (region.replaceWith canonical ending).isDriftedFrom canonical = false ↔
      (∀ line ∈ (canonical.body.splitOn '\n').dropLast,
        line.getLast? ≠ some '\r') ∧
      (ending = .lf →
        ∀ line ∈ (canonical.body.splitOn '\n').getLast?,
          line.getLast? ≠ some '\r') := by
  have account := splitOn_body_replaceWith region normal ending
  have lossless :
      Text.dropReturns (ending.lastLoss + 1) ending.lastLoss
          (canonical.body.splitOn '\n') = canonical.body.splitOn '\n' ↔ _ :=
    Text.dropReturns_eq_self_iff
  have losing : 0 < ending.lastLoss ↔ ending = .lf := by
    cases ending <;> simp [LineEnding.lastLoss]
  rw [losing, imp_iff_right (Nat.succ_pos ending.lastLoss)] at lossless
  rw [isDriftedFrom_eq_false_iff rfl, ← lossless, ← account]
  constructor
  · intro same
    rw [same]
  · intro same
    have joined := congrArg (List.intercalate ['\n']) same
    rwa [List.intercalate_splitOn, List.intercalate_splitOn] at joined

/-- A section of a registry that was written into a region is current exactly
if no line of its body but the last ends in a carriage return and, if line
feeds are written, the last line does not either.  So it is current, with
either line ending, if no line ends in one, and in particular if the body is
empty. -/
theorem current_after_rewrite_iff
    {sections : List Section}
    {registry : Registry}
    (accepted : Registry.ofSections sections = .ok registry)
    (member : canonical ∈ registry.sections)
    (region : MarkedRegion)
    (ending : LineEnding) :
    ((region.replaceWith canonical ending).isDriftedFrom canonical = false ↔
      (∀ line ∈ (canonical.body.splitOn '\n').dropLast,
        line.getLast? ≠ some '\r') ∧
      (ending = .lf →
        ∀ line ∈ (canonical.body.splitOn '\n').getLast?,
          line.getLast? ≠ some '\r')) ∧
    ((∀ line ∈ canonical.body.splitOn '\n', line.getLast? ≠ some '\r') →
      (region.replaceWith canonical ending).isDriftedFrom canonical =
        false) ∧
    (canonical.body = [] →
      (region.replaceWith canonical ending).isDriftedFrom canonical =
        false) ∧
    (region.replaceWith canonical ending).body.foldBreaks.splitOn '\n' =
      Text.dropReturns (ending.lastLoss + 1) ending.lastLoss
        (canonical.body.splitOn '\n') := by
  have stored := (Registry.isSound_of_ofSections accepted).stored _ member
  have normal := stored.body_normal
  have decided := isDriftedFrom_replaceWith_iff_splitOn region normal ending
  have clean
      (noReturn :
        ∀ line ∈ canonical.body.splitOn '\n', line.getLast? ≠ some '\r') :
      (region.replaceWith canonical ending).isDriftedFrom canonical =
        false := by
    refine decided.mpr ⟨fun line inside => ?_, fun _ line last => ?_⟩
    · exact noReturn line (List.dropLast_subset _ inside)
    · exact noReturn line (List.mem_of_getLast? last)
  refine
    ⟨decided, clean, fun empty => clean ?_,
      splitOn_body_replaceWith region normal ending⟩
  rw [empty]
  decide

/-- A carriage return at the end of a body is kept with CRLF and lost with
line feeds.  One in front of an inner line feed is always lost.  Line breaks
of both kinds and a blank body do no harm. -/
theorem current_after_rewrite_final_return :
    ∃ registry final inner clean blank,
      Registry.ofSections
          [⟨"a".toList, "1".toList, "one\r\n\ntwo\r".toList⟩,
            ⟨"b".toList, "2".toList, "one\r\r\ntwo".toList⟩,
            ⟨"c".toList, "3".toList, "one\r\n\ntwo\n".toList⟩,
            ⟨"d".toList, "4".toList, " \r\n".toList⟩] =
          .ok registry ∧
        registry.sections = [final, inner, clean, blank] ∧
        ∀ region : MarkedRegion,
          (region.replaceWith final .crlf).isDriftedFrom final = false ∧
            (region.replaceWith final .lf).isDriftedFrom final = true ∧
            (region.replaceWith inner .crlf).isDriftedFrom inner = true ∧
            (region.replaceWith clean .lf).isDriftedFrom clean = false ∧
            (region.replaceWith blank .lf).isDriftedFrom blank = false := by
  have accepted :
      Registry.ofSections
          [⟨"a".toList, "1".toList, "one\r\n\ntwo\r".toList⟩,
            ⟨"b".toList, "2".toList, "one\r\r\ntwo".toList⟩,
            ⟨"c".toList, "3".toList, "one\r\n\ntwo\n".toList⟩,
            ⟨"d".toList, "4".toList, " \r\n".toList⟩] =
        .ok
          ⟨[⟨"a".toList, "1".toList, "one\n\ntwo\r".toList⟩,
            ⟨"b".toList, "2".toList, "one\r\ntwo".toList⟩,
            ⟨"c".toList, "3".toList, "one\n\ntwo".toList⟩,
            ⟨"d".toList, "4".toList, []⟩]⟩ :=
    rfl
  refine
    ⟨_, _, _, _, _, accepted, rfl, fun region => ⟨?_, ?_, ?_, ?_, ?_⟩⟩
  · rw [(current_after_rewrite_iff accepted (by simp) region _).1]
    decide
  · rw [← Bool.not_eq_false,
      (current_after_rewrite_iff accepted (by simp) region _).1]
    decide
  · rw [← Bool.not_eq_false,
      (current_after_rewrite_iff accepted (by simp) region _).1]
    decide
  · refine (current_after_rewrite_iff accepted (by simp) region _).2.1 ?_
    decide
  · exact (current_after_rewrite_iff accepted (by simp) region _).2.2.1 rfl

end MarkedRegion

end RegionSync
