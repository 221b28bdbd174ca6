import RegionSync.Proofs.Document.Position
import RegionSync.Proofs.Snippet.Page

/-!
# The line that a report shows

The message of a malformed document prints the number of a line, and its
snippet shows a line under a number that it finds by counting line feeds.  The
two numbers agree, and the shown line is the one with the faulty marker.
-/

namespace RegionSync

namespace Malformed

variable
    {malformed : Malformed}
    {before line behind : Text}
    {marker : Marker}

/-! ## The line of a fault -/

/-- Behind the text of its line, a faulty line ends with a line feed or the
text ends. -/
theorem StandsAt.exists_rest
    (stands : malformed.StandsAt before line behind marker) :
    ∃ rest,
      Text.dropFinal '\n' line ++ rest = line ++ behind ∧
        rest.takeWhile (fun char => char != '\n') = [] := by
  rcases stands.line_end with ⟨inner, -, rfl⟩ | ended
  · exact ⟨'\n' :: behind, by simp, by simp⟩
  · rcases Text.exists_dropFinal_append '\n' line with ⟨feed, kind, whole⟩
    refine ⟨feed, by rw [whole, ended, List.append_nil], ?_⟩
    rcases kind with rfl | rfl
    · rfl
    · rfl

theorem StandsAt.takeWhile_reverse_before
    (stands : malformed.StandsAt before line behind marker) :
    before.reverse.takeWhile (fun char => char != '\n') = [] := by
  rcases stands.line_start with rfl | last
  · rfl
  · rcases List.getLast?_eq_some_iff.mp last with ⟨inner, rfl⟩
    simp

/-- The excerpt of a fault is its line up to the line feed. -/
theorem StandsAt.exists_ofSpan
    (stands : malformed.StandsAt before line behind marker) :
    ∃ back,
      line.content ++ back = Text.dropFinal '\n' line ∧
        Snippet.Excerpt.ofSpan (before ++ (line ++ behind)) malformed.span =
          ⟨malformed.line, [], line.content, back⟩ := by
  rcases Text.exists_dropFinal_append '\r' (Text.dropFinal '\n' line) with
    ⟨back, kind, inner⟩
  rcases stands.exists_rest with ⟨rest, cut, ended⟩
  have feedFree : ∀ char ∈ back, (char != '\n') = true := by
    rcases kind with rfl | rfl
    · simp
    · simp
  have parts : line ++ behind = line.content ++ (back ++ rest) := by
    rw [← cut, ← List.append_assoc]
    exact congrArg (· ++ rest) inner.symm
  refine ⟨back, inner, ?_⟩
  rw [Snippet.Excerpt.ofSpan, stands.span, parts]
  simp only [Text.splitAtByte_byteSize, Nat.add_sub_cancel_left,
    stands.takeWhile_reverse_before, ← stands.number, List.reverse_nil,
    List.takeWhile_append_of_pos feedFree, ended, List.append_nil]

theorem StandsAt.commentHead_prefix
    (stands : malformed.StandsAt before line behind marker) :
    Snippet.commentHead <+: line.content := by
  rw [(Marker.ofLine?_eq_some_iff.mp stands.kind).2]
  exact Snippet.commentHead_prefix_print marker

/-- A report of a fault that prints the number of its line and shows the line
under this number. -/
structure Shows
    (malformed : Malformed)
    (source line : Text) :
    Prop where
  message :
    malformed.message =
      "malformed document at line ".toList ++ Text.ofNat malformed.line
        ++ ": ".toList ++ malformed.fault.message
  snippet :
    ∃ shown carets,
      Snippet.IsShownAs (Snippet.roomAt malformed.line)
          ((Text.dropFinal '\n' line).flatMap Snippet.shownChar) shown ∧
        malformed.annotate source =
          Text.joinLines
            [Snippet.titleRow
                ("the document is malformed; fix the markers by hand, "
                  ++ "then retry").toList,
              Snippet.barAt malformed.line,
              Text.ofNat malformed.line ++ " | ".toList ++ shown,
              carets,
              Snippet.barAt malformed.line]

theorem StandsAt.shows
    (stands : malformed.StandsAt before line behind marker) :
    malformed.Shows (before ++ (line ++ behind)) line where
  message := rfl
  snippet := by
    rcases stands.exists_ofSpan with ⟨back, inner, excerpt⟩
    have opening : Snippet.commentHead <+: Text.dropFinal '\n' line := by
      rw [← inner]
      exact stands.commentHead_prefix.trans (List.prefix_append _ _)
    have nonempty : Text.dropFinal '\n' line ≠ [] := by
      intro empty
      rw [empty] at opening
      exact absurd (List.prefix_nil.mp opening) (by decide)
    have single :
        Snippet.Excerpt.lines ⟨malformed.line, [], line.content, back⟩ =
          [Text.dropFinal '\n' line] := by
      rw [Snippet.Excerpt.lines, Snippet.Excerpt.text, List.nil_append, inner,
        Text.lines_of_not_mem nonempty stands.isLine.feed_not_mem_dropFinal]
    rcases Snippet.exists_page rfl single opening malformed.fault.message with
      ⟨shown, carets, shownAs, page⟩
    refine ⟨shown, carets, shownAs, ?_⟩
    rw [Malformed.annotate, RegionSync.annotate, Snippet.rows, excerpt, page]
    rfl

end Malformed

/-- A malformed document is reported at the line of the faulty marker, with
the number that its message prints and its snippet shows. -/
theorem Document.parse_error_located
    {text : Text}
    {malformed : Malformed}
    (failed : parse text = .error malformed) :
    ∃ before line behind marker,
      text = before ++ (line ++ behind) ∧
        malformed.StandsAt before line behind marker ∧
        malformed.Covers text line marker ∧
        malformed.Shows text line := by
  rcases exists_standsAt_of_parse failed with
    ⟨before, line, behind, marker, rfl, stands⟩
  exact
    ⟨before, line, behind, marker, rfl, stands, stands.covers, stands.shows⟩

/-- A region that is left open in front of an ideographic line without an
end, behind a line with two carriage returns. -/
theorem Document.parse_error_located_unterminated :
    parse "é\r\r\n<!-- BEGIN: a v1 -->\r\n字".toList =
        .error ⟨2, ⟨5, 25⟩, .unterminated "a".toList⟩ ∧
      ∃ before line behind marker,
        "é\r\r\n<!-- BEGIN: a v1 -->\r\n字".toList =
            before ++ (line ++ behind) ∧
          (Malformed.mk 2 ⟨5, 25⟩ (.unterminated "a".toList)).StandsAt before
            line behind marker ∧
          (Malformed.mk 2 ⟨5, 25⟩ (.unterminated "a".toList)).Covers
            "é\r\r\n<!-- BEGIN: a v1 -->\r\n字".toList line marker ∧
          (Malformed.mk 2 ⟨5, 25⟩ (.unterminated "a".toList)).Shows
            "é\r\r\n<!-- BEGIN: a v1 -->\r\n字".toList line :=
  ⟨rfl, parse_error_located rfl⟩

end RegionSync
