import RegionSync.Merge
import RegionSync.Proofs.Document.Layout
import RegionSync.Proofs.Marker.Printing
import RegionSync.Proofs.Registry.Stored

/-!
# Writing a section into a region

A region that gets the version and the body of a stored section is framed
again, whatever the body holds: its opening line is a marker for the same name
and its body consists of full lines.  If the line ending carries the body,
the region is also readable.

Two more statements describe what is read where such a region was written.
It says what the written region says (`contents_settle_replaceWith`), and it
has drifted from the section exactly if the ending does not carry the body
(`isDriftedFrom_replaceWith_iff`).
-/

namespace RegionSync

namespace Marker

theorem ofRawLine?_print_append
    {marker : Marker}
    (printable : marker.IsPrintable)
    (ending : LineEnding) :
    ofRawLine? (marker.print ++ ending.text) = some marker := by
  have noReturn : marker.print.getLast? ≠ some '\r' := by
    rw [getLast?_print]
    decide
  cases ending with
  | lf =>
      rw [ofRawLine?, LineEnding.text, Text.content_append_feed,
        Text.dropFinal_eq_self noReturn, ofLine?_print printable]
  | crlf =>
      rw [ofRawLine?, LineEnding.text, Text.content_append_return_feed,
        ofLine?_print printable]

theorem isPrintable_of_ofRawLine?
    {line : Text}
    {marker : Marker}
    (found : ofRawLine? line = some marker) :
    marker.IsPrintable :=
  (ofLine?_eq_some_iff.mp found).1

/-- A line that ends in a carriage return is no marker, and it may be one
only without it. -/
theorem isMarkerLine_append_text
    (ending : LineEnding)
    {line : Text}
    (noFeed : '\n' ∉ line)
    (unmarked : line.isMarkerLine = false) :
    Text.isMarkerLine (line ++ ending.text) = false := by
  rw [Text.isMarkerLine_eq_false_iff, ofRawLine?,
    Text.content_of_not_mem noFeed] at unmarked
  rw [Text.isMarkerLine_eq_false_iff, ofRawLine?]
  cases ending with
  | lf => rwa [LineEnding.text, Text.content_append_feed]
  | crlf =>
      rw [LineEnding.text, Text.content_append_return_feed]
      cases found : ofLine? line with
      | none => rfl
      | some marker =>
          rcases ofLine?_eq_some_iff.mp found with ⟨-, rfl⟩
          have noReturn : marker.print.getLast? ≠ some '\r' := by
            rw [getLast?_print]
            decide
          rw [Text.dropFinal_eq_self noReturn, found] at unmarked
          cases unmarked

end Marker

theorem Section.IsNormalBody.lines_unmarked
    {body : Text}
    (normal : Section.IsNormalBody body)
    (noBreak : body.hasCrlf = false) :
    ∀ line ∈ body.lines, line.isMarkerLine = false := by
  intro line member
  by_cases empty : body = []
  · subst empty
    simp at member
  · have incomplete :=
      Text.not_isComplete_of_unended empty normal.unended
    rw [Text.lines_eq_splitOn incomplete noBreak] at member
    exact normal.unmarked line member

namespace MarkedRegion

variable {region : MarkedRegion} {canonical : Section}

/-! ## Frames and bodies -/

theorem replaceWith_isFramed
    (framed : region.IsFramed)
    (stored : canonical.IsStored)
    (ending : LineEnding) :
    (region.replaceWith canonical ending).IsFramed := by
  have nameToken : region.name.isToken :=
    (Marker.isPrintable_of_ofRawLine? framed.opening_marker).1
  have printable :
      (Marker.opening region.name (some canonical.version)).IsPrintable :=
    ⟨nameToken, by simpa using stored.version_token⟩
  exact
    { opening_full :=
        ending.isFullLine_append_text (Marker.feed_not_mem_print printable)
      opening_marker := Marker.ofRawLine?_print_append printable ending
      leading_isPad := framed.leading_isPad
      body_complete :=
        ending.isComplete_terminate fun _ => Text.feed_not_mem_of_mem_lines
      trailing_isPad := framed.trailing_isPad
      closing_isLine := framed.closing_isLine
      closing_marker := framed.closing_marker }

theorem rawLines_replaceWith
    (region : MarkedRegion)
    (canonical : Section)
    (ending : LineEnding) :
    (region.replaceWith canonical ending).rawBody.rawLines =
      canonical.body.lines.map fun line => line ++ ending.text :=
  ending.rawLines_terminate fun _ => Text.feed_not_mem_of_mem_lines

theorem replaceWith_isReadable
    (framed : region.IsFramed)
    (stored : canonical.IsStored)
    {ending : LineEnding}
    (carries : ending.Carries canonical.body) :
    (region.replaceWith canonical ending).IsReadable where
  toIsFramed := replaceWith_isFramed framed stored ending
  body_plain := by
    intro line member
    rw [rawLines_replaceWith] at member
    rcases List.mem_map.mp member with ⟨inner, inside, rfl⟩
    exact Marker.isMarkerLine_append_text ending
      (Text.feed_not_mem_of_mem_lines inside)
      (stored.body_normal.lines_unmarked carries.1 inner inside)

/-! ## What is read where a section was written -/

/-- What a region says: its name, its version and its body. -/
def contents (region : MarkedRegion) : Text × Option Text × Text :=
  (region.name, region.version, region.body)

@[simp]
theorem settle_name (region : MarkedRegion) :
    region.settle.name = region.name :=
  rfl

theorem isBlank_append_text
    (line : Text)
    (ending : LineEnding) :
    Text.isBlank (line ++ ending.text) = line.isBlank := by
  have white : Text.isBlank ending.text = true := by
    cases ending <;> decide
  rw [Text.isBlank, Text.isBlank, List.all_append]
  rw [Text.isBlank] at white
  simp [white]

/-- A body with lines keeps its padding apart. -/
theorem isGreedy_replaceWith
    (framed : region.IsFramed)
    (normal : Section.IsNormalBody canonical.body)
    (ending : LineEnding)
    (nonempty : canonical.body.lines ≠ []) :
    IsGreedy region.leadingPad
      (region.replaceWith canonical ending).rawBody.rawLines
      region.trailingPad := by
  rw [rawLines_replaceWith]
  rcases List.exists_cons_of_ne_nil nonempty with ⟨first, rest, cut⟩
  refine
    { leading_blank := fun pad member => (framed.leading_isPad pad member).blank
      trailing_blank := fun pad member =>
        (framed.trailing_isPad pad member).blank
      leading_greedy := ?_
      trailing_greedy := ?_ }
  · intro _ other member
    have head : other = first ++ ending.text := by
      simpa [cut, eq_comm] using member
    rw [head, isBlank_append_text]
    exact normal.first_solid first (by simp [cut])
  · intro absent other member
    rw [absent, Option.toList_none, List.append_nil,
      List.getLast?_map] at member
    rcases Option.map_eq_some_iff.mp member with ⟨last, found, rfl⟩
    rw [isBlank_append_text]
    exact normal.last_solid last found

/-- The written body is read back as a body, even if it has no lines and a
trailing blank line is read as leading padding. -/
theorem rawBody_settle_replaceWith
    (framed : region.IsFramed)
    (normal : Section.IsNormalBody canonical.body)
    (ending : LineEnding) :
    (region.replaceWith canonical ending).settle.rawBody =
      (region.replaceWith canonical ending).rawBody := by
  by_cases nonempty : canonical.body.lines = []
  · have empty : (region.replaceWith canonical ending).rawBody = [] := by
      simp [replaceWith, LineEnding.terminate, nonempty]
    rw [settle, innerLines, linesBehindPad, empty, Text.rawLines_nil,
      List.nil_append]
    change (ofLines _ _ _ (region.leadingPad.toList ++
      region.trailingPad.toList) _).rawBody = []
    cases leading : region.leadingPad with
    | none =>
        cases trailing : region.trailingPad with
        | none => rfl
        | some pad =>
            have blank := (framed.trailing_isPad pad trailing).blank
            simp [ofLines, takePad, blank]
    | some pad =>
        have blank := (framed.leading_isPad pad leading).blank
        cases trailing : region.trailingPad with
        | none => simp [ofLines, takePad, blank]
        | some other =>
            have otherBlank := (framed.trailing_isPad other trailing).blank
            simp [ofLines, takePad, blank, otherBlank]
  · rw [settle_eq_of_isGreedy]
    exact isGreedy_replaceWith framed normal ending nonempty

theorem contents_settle_replaceWith
    (framed : region.IsFramed)
    (normal : Section.IsNormalBody canonical.body)
    (ending : LineEnding) :
    (region.replaceWith canonical ending).settle.contents =
      (region.replaceWith canonical ending).contents := by
  rw [contents, contents, body, body,
    rawBody_settle_replaceWith framed normal ending]
  rfl

/-! ## Drift -/

theorem isDriftedFrom_congr
    {other : MarkedRegion}
    (same : region.contents = other.contents)
    (canonical : Section) :
    region.isDriftedFrom canonical = other.isDriftedFrom canonical := by
  obtain ⟨-, version, body⟩ :
      region.name = other.name ∧ region.version = other.version ∧
        region.body = other.body := by
    simpa [contents] using same
  rw [isDriftedFrom, isDriftedFrom, version, body]

theorem isDriftedFrom_eq_false_iff
    (version : region.version = some canonical.version) :
    region.isDriftedFrom canonical = false ↔
      region.body.foldBreaks = canonical.body := by
  simp [isDriftedFrom, version]

/-- A fresh rewrite is current exactly if the ending carries the body. -/
theorem isDriftedFrom_replaceWith_iff
    (region : MarkedRegion)
    (normal : Section.IsNormalBody canonical.body)
    (ending : LineEnding) :
    (region.replaceWith canonical ending).isDriftedFrom canonical = false ↔
      ending.Carries canonical.body := by
  rw [isDriftedFrom_eq_false_iff rfl]
  exact ending.foldBreaks_content_terminate_iff normal.unended

end MarkedRegion

end RegionSync
