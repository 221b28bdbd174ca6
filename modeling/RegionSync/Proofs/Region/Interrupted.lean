import RegionSync.Proofs.Region.Replacing

/-!
# A body that ends too early

A stored body may hold a line that becomes a marker once it is written and
read, because a carriage return at its end is taken for a part of the line
break.  The region that is read there ends at that line, if it is read at all.

Such a region has lost at least one line of the body, and so it has drifted
from the section that was written (`isDriftedFrom_interrupted`).  The count of
line feeds is what shows it: neither the padding nor the treatment of carriage
returns can make up for a missing line.
-/

namespace RegionSync

/-! ## Counting lines -/

namespace Text

theorem count_feed_dropFinal_return (text : Text) :
    (dropFinal '\r' text).count '\n' = text.count '\n' := by
  by_cases last : text.getLast? = some '\r'
  · rcases List.getLast?_eq_some_iff.mp last with ⟨inner, rfl⟩
    simp
  · rw [dropFinal_eq_self last]

/-- Of full lines, the last line feed alone is not part of the content. -/
theorem count_feed_content_flatten
    {lines : List Text}
    (full : ∀ line ∈ lines, line.IsFullLine)
    (nonempty : lines ≠ []) :
    (content lines.flatten).count '\n' + 1 = lines.length := by
  have complete := isComplete_flatten full
  have counted := count_feed_flatten full
  rcases complete with empty | ended
  · have none_cut := rawLines_flatten full
    rw [empty, rawLines_nil] at none_cut
    exact absurd none_cut.symm nonempty
  · rcases List.getLast?_eq_some_iff.mp ended with ⟨inner, cut⟩
    rw [cut, content_append_feed, count_feed_dropFinal_return]
    rw [cut, List.count_append] at counted
    simpa using counted

end Text

/-- What stands in front of an element that the second part of a list lacks is
shorter than the first part. -/
theorem length_lt_of_append_eq
    {α : Type}
    {first second taken behind : List α}
    {element : α}
    (cut : first ++ second = taken ++ element :: behind)
    (absent : element ∉ second) :
    taken.length < first.length := by
  by_contra beyond
  have found : (first ++ second)[taken.length]? = some element := by
    simp [cut]
  rw [List.getElem?_append_right (by omega)] at found
  exact absent (List.mem_of_getElem? found)

/-! ## Drift by a missing line -/

namespace MarkedRegion

variable {canonical : Section}

/-- A region with fewer lines than a section has drifted from it. -/
theorem isDriftedFrom_of_length_lt
    {region : MarkedRegion}
    {lines : List Text}
    (full : ∀ line ∈ lines, line.IsFullLine)
    (body : region.rawBody = lines.flatten)
    (unended : canonical.body.getLast? ≠ some '\n')
    (fewer : lines.length < canonical.body.lines.length) :
    region.isDriftedFrom canonical = true := by
  have differ : region.body.foldBreaks ≠ canonical.body := by
    intro same
    have nonempty : canonical.body ≠ [] := by
      intro empty
      simp [empty] at fewer
    have stored :=
      Text.length_lines (Text.not_isComplete_of_unended nonempty unended)
    rw [← same, Text.count_feed_foldBreaks, same, MarkedRegion.body, body]
      at stored
    by_cases none_left : lines = []
    · apply nonempty
      rw [← same, MarkedRegion.body, body, none_left]
      rfl
    · have read := Text.count_feed_content_flatten full none_left
      omega
  simp [isDriftedFrom, differ]

theorem innerLines_replaceWith_full
    {region : MarkedRegion}
    (framed : region.IsFramed)
    (canonical : Section)
    (ending : LineEnding) :
    ∀ line ∈ (region.replaceWith canonical ending).innerLines,
      line.IsFullLine := by
  intro line member
  simp only [innerLines, linesBehindPad, rawLines_replaceWith,
    List.mem_append, Option.mem_toList, List.mem_map] at member
  rcases member with leading | ⟨inner, inside, rfl⟩ | trailing
  · exact (framed.leading_isPad line leading).full
  · exact ending.isFullLine_append_text (Text.feed_not_mem_of_mem_lines inside)
  · exact (framed.trailing_isPad line trailing).full

/-- A greedy cut of the lines in front of an element that is no padding keeps
fewer lines than there are between the padding. -/
theorem IsGreedy.length_lt
    {leading trailing frontPad backPad : Option Text}
    {kept lines behind : List Text}
    {element : Text}
    (greedy : IsGreedy leading kept trailing)
    (cut :
      frontPad.toList ++ (lines ++ backPad.toList) =
        (leading.toList ++ (kept ++ trailing.toList)) ++ element :: behind)
    (blank : ∀ pad ∈ frontPad, pad.isBlank)
    (notFront : element ∉ frontPad.toList)
    (notBack : element ∉ backPad.toList) :
    kept.length < lines.length := by
  have longer (before : List Text)
      (same :
        lines ++ backPad.toList =
          (before ++ (kept ++ trailing.toList)) ++ element :: behind) :
      kept.length < lines.length := by
    have shorter := length_lt_of_append_eq same notBack
    simp only [List.length_append] at shorter
    omega
  cases frontPad with
  | none => exact longer leading.toList cut
  | some pad =>
      cases leading with
      | some first => exact longer [] (List.cons.inj cut).2
      | none =>
          -- A line in front of the element would be the blank line.
          exfalso
          cases front : kept ++ trailing.toList with
          | nil =>
              rw [front] at cut
              exact notFront (by simp [(List.cons.inj cut).1])
          | cons head rest =>
              have solid := greedy.leading_greedy rfl head (by simp [front])
              rw [front] at cut
              obtain rfl : pad = head := (List.cons.inj cut).1
              rw [blank pad rfl] at solid
              cases solid

/-- A region that ends inside a written body has drifted from its section. -/
theorem isDriftedFrom_interrupted
    {region : MarkedRegion}
    (framed : region.IsFramed)
    (stored : canonical.IsStored)
    {ending : LineEnding}
    {taken behind : List Text}
    {closing : Text}
    (cut :
      (region.replaceWith canonical ending).innerLines =
        taken ++ closing :: behind)
    (marker : closing.isMarkerLine = true)
    (name : Text)
    (version : Option Text)
    (openingLine closingLine : Text) :
    (ofLines name version openingLine taken closingLine).isDriftedFrom
      canonical = true := by
  have full := innerLines_replaceWith_full framed canonical ending
  have noPad :
      ∀ pad : Option Text, (∀ line ∈ pad, line.IsPad) →
        closing ∉ pad.toList := by
    intro pad isPad member
    have unmarked := (isPad closing (Option.mem_toList.mp member)).unmarked
    rw [unmarked] at marker
    cases marker
  rcases exists_isGreedy taken with ⟨leading, kept, trailing, greedy, rfl⟩
  have fewer : kept.length < canonical.body.lines.length := by
    have shorter :=
      greedy.length_lt cut
        (fun pad member => (framed.leading_isPad pad member).blank)
        (noPad _ framed.leading_isPad) (noPad _ framed.trailing_isPad)
    rwa [rawLines_replaceWith, List.length_map] at shorter
  have keptFull : ∀ line ∈ kept, line.IsFullLine :=
    fun line member => full line (by simp [cut, member])
  have body :
      (ofLines name version openingLine
        (leading.toList ++ (kept ++ trailing.toList)) closingLine).rawBody =
          kept.flatten := by
    rw [greedy.ofLines_eq]
  exact isDriftedFrom_of_length_lt keptFull body
    stored.body_normal.unended fewer

end MarkedRegion

end RegionSync
