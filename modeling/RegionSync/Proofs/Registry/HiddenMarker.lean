import RegionSync.Proofs.Document.Pairing
import RegionSync.Proofs.Region.Replacing

/-!
# Markers that a stored body hides

A registry tests the lines of a body before it stores it, and takes one
carriage return off the end of each line.  When the stored body is written and
read, one more goes where the body is cut into lines again, and one where a
document is.  With CRLF the document's own carriage return is the one that
goes, but with line feeds a line that ends in two carriage returns is read
without them.

`Section.hiddenMarkers` are the markers in front of two carriage returns, in
every line of a body but the last.  `markers_terminate_lines` says that these
are the markers that are read where a stored body was written with line feeds,
and that with CRLF none are.
-/

namespace RegionSync

namespace Text

theorem markers_eq_nil_iff
    {text : Text} :
    text.markers = [] ↔ text.IsPlain := by
  simp only [markers, List.filterMap_eq_nil_iff, IsPlain,
    isMarkerLine_eq_false_iff]

/-- A text that ends inside a line loses a carriage return on each line but
the last when it is cut. -/
theorem exists_splitOn_eq
    {text : Text}
    (incomplete : ¬text.IsComplete) :
    ∃ front last,
      text.splitOn '\n' = front ++ [last] ∧
        text.lines = front.map (dropFinal '\r') ++ [last] := by
  induction text using line_induction with
  | last text noFeed =>
      have nonempty : text ≠ [] := fun empty => incomplete (Or.inl empty)
      refine ⟨[], text, ?_, ?_⟩
      · exact List.splitOn_eq_singleton noFeed
      · exact lines_of_not_mem nonempty noFeed
  | line inner rest noFeed ih =>
      rcases ih (not_isComplete_of_append_feed incomplete) with
        ⟨front, last, pieces, lines⟩
      refine ⟨inner :: front, last, ?_, ?_⟩
      · rw [List.splitOn_append_cons_self_of_not_mem noFeed, pieces]
        rfl
      · rw [lines_append_feed rest noFeed, lines]
        rfl

end Text

namespace Section

/-- The markers that stand in front of two carriage returns, on any line of a
body but the last. -/
def hiddenMarkers (body : Text) : List Marker :=
  (body.splitOn '\n').dropLast.filterMap fun line =>
    (Text.before? ['\r', '\r'] line).bind Marker.ofLine?

end Section

namespace Marker

/-- With CRLF a line that lost a carriage return is read as it was tested. -/
theorem ofRawLine?_dropFinal_crlf
    {line : Text}
    (noFeed : '\n' ∉ line)
    (unmarked : line.isMarkerLine = false) :
    ofRawLine? (Text.dropFinal '\r' line ++ LineEnding.crlf.text) = none := by
  rw [Text.isMarkerLine_eq_false_iff, ofRawLine?,
    Text.content_of_not_mem noFeed] at unmarked
  rw [ofRawLine?, LineEnding.text, Text.content_append_return_feed, unmarked]

/-- With line feeds it is read without a second carriage return. -/
theorem ofRawLine?_dropFinal_lf
    {line : Text}
    (noFeed : '\n' ∉ line)
    (unmarked : line.isMarkerLine = false) :
    ofRawLine? (Text.dropFinal '\r' line ++ LineEnding.lf.text) =
      (Text.before? ['\r', '\r'] line).bind ofLine? := by
  rw [Text.isMarkerLine_eq_false_iff, ofRawLine?,
    Text.content_of_not_mem noFeed] at unmarked
  rw [ofRawLine?, LineEnding.text, Text.content_append_feed]
  cases cut : Text.before? ['\r', '\r'] line with
  | some inner =>
      have shape : line = (inner ++ ['\r']) ++ ['\r'] := by
        simpa using Text.before?_eq_some_iff.mp cut
      rw [shape, Text.dropFinal_append_self, Text.dropFinal_append_self]
      rfl
  | none =>
      -- At most one carriage return stands at the end of the line.
      have single : (Text.dropFinal '\r' line).getLast? ≠ some '\r' := by
        intro second
        rcases List.getLast?_eq_some_iff.mp second with ⟨inner, shape⟩
        by_cases last : line.getLast? = some '\r'
        · rcases List.getLast?_eq_some_iff.mp last with ⟨front, rfl⟩
          rw [Text.dropFinal_append_self] at shape
          have found :
              Text.before? ['\r', '\r'] (front ++ ['\r']) = some inner :=
            Text.before?_eq_some_iff.mpr (by simp [shape])
          rw [found] at cut
          cases cut
        · rw [Text.dropFinal_eq_self last] at second
          exact last second
      rw [Text.dropFinal_eq_self single, unmarked]
      rfl

end Marker

/-- The markers that are read where the body of a stored section was
written. -/
theorem Section.IsNormalBody.markers_terminate_lines
    {body : Text}
    (normal : Section.IsNormalBody body)
    (ending : LineEnding) :
    (ending.terminate body.lines).markers =
      match ending with
      | .lf => Section.hiddenMarkers body
      | .crlf => [] := by
  rw [Text.markers,
    ending.rawLines_terminate fun _ => Text.feed_not_mem_of_mem_lines,
    List.filterMap_map]
  by_cases empty : body = []
  · subst empty
    cases ending <;> rfl
  have incomplete := Text.not_isComplete_of_unended empty normal.unended
  rcases Text.exists_splitOn_eq incomplete with ⟨front, last, pieces, lines⟩
  have noFeed : ∀ line ∈ front ++ [last], '\n' ∉ line := by
    rw [← pieces]
    exact fun line member => Text.not_mem_of_mem_splitOn member
  have unmarked :
      ∀ line ∈ front ++ [last], Text.isMarkerLine line = false := by
    rw [← pieces]
    exact normal.unmarked
  have lastUnmarked : Marker.ofRawLine? (last ++ ending.text) = none :=
    Text.isMarkerLine_eq_false_iff.mp <|
      Marker.isMarkerLine_append_text ending (noFeed last (by simp))
        (unmarked last (by simp))
  rw [lines, List.filterMap_append, List.filterMap_map]
  cases ending with
  | lf =>
      rw [Section.hiddenMarkers, pieces, List.dropLast_concat]
      have same :
          ∀ line ∈ front,
            Marker.ofRawLine?
                (Text.dropFinal '\r' line ++ LineEnding.lf.text) =
              (Text.before? ['\r', '\r'] line).bind Marker.ofLine? :=
        fun line member =>
          Marker.ofRawLine?_dropFinal_lf (noFeed line (by simp [member]))
            (unmarked line (by simp [member]))
      simpa [lastUnmarked] using List.filterMap_congr same
  | crlf =>
      have none_read :
          ∀ line ∈ front,
            Marker.ofRawLine?
                (Text.dropFinal '\r' line ++ LineEnding.crlf.text) =
              none :=
        fun line member =>
          Marker.ofRawLine?_dropFinal_crlf (noFeed line (by simp [member]))
            (unmarked line (by simp [member]))
      simpa [lastUnmarked] using none_read

end RegionSync
