import RegionSync.ManagedFile
import RegionSync.Proofs.Merge.Rereading
import RegionSync.Proofs.Registry.HiddenMarker

/-!
# When a written document can be read

Whether a text can be read depends on its markers alone, and the markers of a
document are those of its regions in order.  The reader accepts them exactly
if the markers of each region are paired for themselves
(`arePaired_flatMap_iff`), since every region starts with an opening marker.

A region that a merge has left alone has just its own two markers.  Where a
section was written with line feeds, the markers that its body hides stand
between them.  So a fresh or a merged document is refused exactly if some
section that was written hides markers that are no pairs there.
-/

namespace RegionSync

/-! ## Markers of regions -/

namespace Marker

theorem arePaired_nil : ArePaired [] :=
  ⟨[], rfl⟩

/-- Pairs do not reach across a place where a region opens. -/
theorem arePaired_append_iff
    {left right : List Marker}
    (opens : ∀ name, right.head? ≠ some (closing name)) :
    ArePaired (left ++ right) ↔ ArePaired left ∧ ArePaired right := by
  constructor
  · rintro ⟨labels, whole⟩
    induction labels generalizing left with
    | nil =>
        obtain ⟨rfl, rfl⟩ := List.append_eq_nil_iff.mp whole
        exact ⟨arePaired_nil, arePaired_nil⟩
    | cons label labels ih =>
        rcases label with ⟨name, version⟩
        rw [ofLabels_cons] at whole
        cases left with
        | nil => exact ⟨arePaired_nil, ⟨(name, version) :: labels, whole⟩⟩
        | cons first left =>
            rw [List.cons_append, List.cons.injEq] at whole
            rcases whole with ⟨rfl, behind⟩
            cases left with
            | nil =>
                rw [List.nil_append] at behind
                exact absurd (by rw [behind]; rfl) (opens name)
            | cons second left =>
                rw [List.cons_append, List.cons.injEq] at behind
                rcases behind with ⟨rfl, below⟩
                rcases ih below with ⟨⟨found, rfl⟩, paired⟩
                exact ⟨⟨(name, version) :: found, rfl⟩, paired⟩
  · rintro ⟨⟨leftLabels, rfl⟩, rightLabels, rfl⟩
    exact ⟨leftLabels ++ rightLabels, by simp [ofLabels]⟩

end Marker

namespace MarkedRegion

/-- The markers of a region in a document. -/
def markers (region : MarkedRegion) : List Marker :=
  .opening region.name region.version ::
    (region.rawBody.markers ++ [.closing region.name])

theorem arePaired_flatMap_iff
    {regions : List MarkedRegion} :
    Marker.ArePaired (regions.flatMap markers) ↔
      ∀ region ∈ regions, Marker.ArePaired region.markers := by
  induction regions with
  | nil => simp [Marker.arePaired_nil]
  | cons region rest ih =>
      have opens (name : Text) :
          (rest.flatMap markers).head? ≠ some (.closing name) := by
        cases rest <;> simp [markers]
      rw [List.flatMap_cons, Marker.arePaired_append_iff opens, ih,
        List.forall_mem_cons]

theorem IsFramed.filterMap_innerLines
    {region : MarkedRegion}
    (framed : region.IsFramed) :
    region.innerLines.filterMap Marker.ofRawLine? =
      region.rawBody.markers := by
  have none_read (pad : Option Text) (isPad : ∀ line ∈ pad, line.IsPad) :
      pad.toList.filterMap Marker.ofRawLine? = [] := by
    rw [List.filterMap_eq_nil_iff]
    intro line member
    apply Text.isMarkerLine_eq_false_iff.mp
    exact (isPad line (Option.mem_toList.mp member)).unmarked
  rw [innerLines, linesBehindPad, List.filterMap_append,
    List.filterMap_append, none_read _ framed.leading_isPad,
    none_read _ framed.trailing_isPad, List.append_nil, List.nil_append,
    Text.markers]

theorem IsCanonical.arePaired_markers
    {region : MarkedRegion}
    (canonical : region.IsCanonical) :
    Marker.ArePaired region.markers := by
  refine ⟨[(region.name, region.version)], ?_⟩
  rw [markers, Text.markers_eq_nil_iff.mpr canonical.body_plain]
  rfl

end MarkedRegion

namespace Document

theorem markers_layoutText
    {lead : Text}
    {tail : List (MarkedRegion × Text)}
    (laid : IsLaidOut MarkedRegion.IsFramed lead tail) :
    (layoutText lead tail).markers =
      (tail.map Prod.fst).flatMap MarkedRegion.markers := by
  induction laid with
  | last plain => simpa using Text.markers_eq_nil_iff.mpr plain
  | @next lead text region rest plain complete framed ended _ ih =>
      have leadMarkers := Text.markers_eq_nil_iff.mpr plain
      rw [Text.markers] at leadMarkers ih ⊢
      rw [layoutText_cons, complete.rawLines_append,
        framed.rawLines_render_append,
        rawLines_closing_append framed.closing_isLine ended,
        List.filterMap_append, leadMarkers,
        List.filterMap_cons_some framed.opening_marker,
        List.filterMap_append, framed.filterMap_innerLines,
        List.filterMap_cons_some framed.closing_marker, ih]
      simp [MarkedRegion.markers]

/-- A document of framed regions can be read if the markers of each region
are paired. -/
theorem exists_parse_layoutText_iff
    {lead : Text}
    {tail : List (MarkedRegion × Text)}
    (laid : IsLaidOut MarkedRegion.IsFramed lead tail) :
    (∃ document, parse (layoutText lead tail) = .ok document) ↔
      ∀ region ∈ tail.map Prod.fst, Marker.ArePaired region.markers := by
  rw [exists_parse_iff_arePaired, markers_layoutText laid,
    MarkedRegion.arePaired_flatMap_iff]

end Document

/-! ## Written sections -/

/-- Whether the markers that the body of a section hides are paired where they
stand, between the markers of the section. -/
def Section.HidesPairs (canonical : Section) : Prop :=
  Marker.ArePaired
    (.opening canonical.name (some canonical.version) ::
      (hiddenMarkers canonical.body ++ [.closing canonical.name]))

namespace MarkedRegion

variable {region : MarkedRegion} {canonical : Section}

theorem isPlain_replaceWith_iff
    (region : MarkedRegion)
    (normal : Section.IsNormalBody canonical.body)
    (ending : LineEnding) :
    (region.replaceWith canonical ending).rawBody.IsPlain ↔
      (ending = .lf → Section.hiddenMarkers canonical.body = []) := by
  rw [← Text.markers_eq_nil_iff, replaceWith,
    normal.markers_terminate_lines]
  cases ending <;> simp

theorem arePaired_replaceWith_iff
    (sameName : region.name = canonical.name)
    (normal : Section.IsNormalBody canonical.body)
    (ending : LineEnding) :
    Marker.ArePaired (region.replaceWith canonical ending).markers ↔
      (ending = .lf → canonical.HidesPairs) := by
  rw [markers, replaceWith, normal.markers_terminate_lines, sameName]
  cases ending with
  | lf => simp [Section.HidesPairs]
  | crlf =>
      simp only [reduceCtorEq, false_implies, iff_true]
      exact ⟨[(canonical.name, some canonical.version)], rfl⟩

theorem isFullLine_closingLine_ofSection
    (stored : canonical.IsStored)
    (ending : LineEnding) :
    (ofSection canonical ending).closingLine.IsFullLine := by
  have closes : (Marker.closing canonical.name).IsPrintable :=
    stored.name_token
  exact ending.isFullLine_append_text (Marker.feed_not_mem_print closes)

theorem ofSection_isFramed
    (stored : canonical.IsStored)
    (ending : LineEnding) :
    (ofSection canonical ending).IsFramed := by
  have opens :
      (Marker.opening canonical.name (some canonical.version)).IsPrintable :=
    ⟨stored.name_token, by simpa using stored.version_token⟩
  have closes : (Marker.closing canonical.name).IsPrintable :=
    stored.name_token
  exact
    { opening_full :=
        ending.isFullLine_append_text (Marker.feed_not_mem_print opens)
      opening_marker := Marker.ofRawLine?_print_append opens ending
      leading_isPad := by simp [ofSection]
      body_complete :=
        ending.isComplete_terminate fun _ => Text.feed_not_mem_of_mem_lines
      trailing_isPad := by simp [ofSection]
      closing_isLine := (isFullLine_closingLine_ofSection stored ending).isLine
      closing_marker := Marker.ofRawLine?_print_append closes ending }

end MarkedRegion

namespace Fate

variable {registry : Registry} {ending : LineEnding}

theorem apply_isFramed
    (sound : registry.IsSound)
    {earlier : List Text}
    {region : MarkedRegion}
    (framed : region.IsFramed) :
    ((of registry earlier region).apply ending region).IsFramed := by
  rcases apply_cases sound earlier ending region with
    same | ⟨canonical, stored, -, same⟩
  · rwa [same]
  · rw [same]
    exact MarkedRegion.replaceWith_isFramed framed stored ending

theorem arePaired_apply_iff
    (sound : registry.IsSound)
    {earlier : List Text}
    {region : MarkedRegion}
    (good : region.IsCanonical) :
    Marker.ArePaired
        ((of registry earlier region).apply ending region).markers ↔
      ∀ canonical,
        of registry earlier region = drifted canonical →
          ending = .lf → canonical.HidesPairs := by
  cases fate : of registry earlier region with
  | drifted canonical =>
      rcases Registry.mem_of_get? (of_eq_drifted_iff.mp fate).2.1 with
        ⟨member, sameName⟩
      rw [apply, MarkedRegion.arePaired_replaceWith_iff sameName.symm
        (sound.stored canonical member).body_normal]
      simp
  | repeated => simpa [apply] using good.arePaired_markers
  | foreign => simpa [apply] using good.arePaired_markers
  | current => simpa [apply] using good.arePaired_markers

end Fate

namespace Document

variable {registry : Registry} {ending : LineEnding}

theorem isFramed_mergedTail
    (sound : registry.IsSound)
    {earlier : List Text}
    {lead : Text}
    {tail : List (MarkedRegion × Text)}
    (laid : IsLaidOut MarkedRegion.IsCanonical lead tail) :
    IsLaidOut MarkedRegion.IsFramed lead
      (mergedTail registry ending earlier tail) := by
  induction laid generalizing earlier with
  | last plain => exact .last plain
  | next plain complete good ended _ ih =>
      rw [mergedTail_cons]
      exact .next plain complete
        (Fate.apply_isFramed sound good.toIsFramed) (by simpa using ended) ih

theorem arePaired_mergedTail_iff
    (sound : registry.IsSound)
    {earlier : List Text}
    {tail : List (MarkedRegion × Text)}
    (good : ∀ entry ∈ tail, entry.1.IsCanonical) :
    (∀ region ∈ (mergedTail registry ending earlier tail).map Prod.fst,
        Marker.ArePaired region.markers) ↔
      (ending = .lf →
        ∀ canonical,
          .drifted canonical ∈
              (Fate.assign registry earlier tail).map Prod.fst →
            canonical.HidesPairs) := by
  induction tail generalizing earlier with
  | nil => simp [Fate.assign]
  | cons entry rest ih =>
      rcases entry with ⟨region, text⟩
      rcases List.forall_mem_cons.mp good with ⟨first, below⟩
      rw [mergedTail_cons, List.map_cons, List.forall_mem_cons, ih below,
        Fate.arePaired_apply_iff sound first, Fate.assign, List.map_cons]
      simp only [List.mem_cons]
      constructor
      · rintro ⟨here, later⟩ feeds canonical (fate | member)
        · exact here canonical fate.symm feeds
        · exact later feeds canonical member
      · intro all
        exact
          ⟨fun canonical fate feeds =>
              all feeds canonical (Or.inl fate.symm),
            fun feeds canonical member =>
              all feeds canonical (Or.inr member)⟩

/-- A merged document can be read exactly if each section that was written
with line feeds hides only pairs. -/
theorem exists_parse_merge_iff
    (sound : registry.IsSound)
    {text : Text}
    {document : Document}
    (read : parse text = .ok document) :
    (∃ reread, parse (document.merge registry).1.render = .ok reread) ↔
      (document.lineEnding = .lf →
        ∀ canonical,
          .drifted canonical ∈ (document.fates registry).map Prod.fst →
            canonical.HidesPairs) := by
  have laid := isLaidOut_of_parse read
  rw [render_eq_layoutText, merge_fst,
    exists_parse_layoutText_iff (isFramed_mergedTail sound laid),
    arePaired_mergedTail_iff sound laid.sound, fates]

/-! ## Fresh documents -/

theorem isFullLine_feed : Text.IsFullLine ['\n'] :=
  ⟨[], by simp, rfl⟩

theorem isMarkerLine_feed : Text.isMarkerLine ['\n'] = false := by
  decide

theorem isLaidOut_freshTail
    {kind : MarkedRegion → Prop}
    {sections : List Section}
    (stored : ∀ canonical ∈ sections, canonical.IsStored)
    (good : ∀ canonical ∈ sections, kind (.ofSection canonical .lf))
    {lead trailer : Text}
    (plain : lead.IsPlain)
    (complete : lead.IsComplete)
    (trailerPlain : trailer.IsPlain) :
    IsLaidOut kind lead (freshTail trailer sections) := by
  have feed := isFullLine_feed
  fun_induction freshTail trailer sections generalizing lead with
  | case1 => exact .last plain
  | case2 last =>
      have ended :=
        MarkedRegion.isFullLine_closingLine_ofSection (stored last (by simp)) .lf
      refine .next plain complete (good last (by simp)) (Or.inl ended)
        (.last ?_)
      exact feed.isPlain_append isMarkerLine_feed trailerPlain
  | case3 first next rest ih =>
      have ended :=
        MarkedRegion.isFullLine_closingLine_ofSection (stored first (by simp))
          .lf
      refine .next plain complete (good first (by simp)) (Or.inl ended) ?_
      apply ih
      · intro canonical member
        exact stored canonical (List.mem_cons_of_mem first member)
      · intro canonical member
        exact good canonical (List.mem_cons_of_mem first member)
      · exact feed.isLine.isPlain isMarkerLine_feed
      · exact feed.isComplete

/-- A fresh document is laid out well if its regions are. -/
theorem isLaidOut_ofSections
    {kind : MarkedRegion → Prop}
    {sections : List Section}
    (stored : ∀ canonical ∈ sections, canonical.IsStored)
    (good : ∀ canonical ∈ sections, kind (.ofSection canonical .lf))
    {trailer : Text}
    (plain : trailer.IsPlain) :
    IsLaidOut kind (ofSections sections trailer).lead
      (ofSections sections trailer).tail := by
  cases sections with
  | nil => exact .last plain
  | cons first rest =>
      exact isLaidOut_freshTail stored good Text.isPlain_nil
        Text.isComplete_nil plain

theorem map_fst_freshTail
    (trailer : Text)
    (sections : List Section) :
    (freshTail trailer sections).map Prod.fst =
      sections.map fun canonical => MarkedRegion.ofSection canonical .lf := by
  fun_induction freshTail trailer sections with
  | case1 => rfl
  | case2 last => rfl
  | case3 first next rest ih =>
      rw [List.map_cons, ih]
      rfl

/-- A fresh document can be read exactly if each section hides only pairs. -/
theorem exists_parse_ofSections_iff
    {sections : List Section}
    (stored : ∀ canonical ∈ sections, canonical.IsStored)
    {trailer : Text}
    (plain : trailer.IsPlain) :
    (∃ document, parse (ofSections sections trailer).render = .ok document) ↔
      ∀ canonical ∈ sections, canonical.HidesPairs := by
  have framed :
      ∀ canonical ∈ sections,
        (MarkedRegion.ofSection canonical .lf).IsFramed :=
    fun canonical member =>
      MarkedRegion.ofSection_isFramed (stored canonical member) .lf
  have laid := isLaidOut_ofSections stored framed plain
  rw [render_eq_layoutText, exists_parse_layoutText_iff laid]
  change (∀ region ∈ (freshTail trailer sections).map Prod.fst,
    Marker.ArePaired region.markers) ↔ _
  rw [map_fst_freshTail, List.forall_mem_map]
  refine forall₂_congr fun canonical member => ?_
  have normal := (stored canonical member).body_normal
  have written :
      (MarkedRegion.ofSection canonical .lf).replaceWith canonical .lf =
        MarkedRegion.ofSection canonical .lf :=
    rfl
  rw [← written, MarkedRegion.arePaired_replaceWith_iff rfl normal]
  simp

theorem isPlain_placeholder : ManagedFile.placeholder.IsPlain := by
  rw [Text.IsPlain]
  decide +kernel

/-! ## What a registry can do to a document -/

/-- The body of a stored section is written without a marker exactly if line
feeds are not written or it hides none; and a document that was written is
refused exactly if some section hides markers that are no pairs there. -/
theorem written_readable_iff_hidesPairs
    {sections : List Section}
    {registry : Registry}
    (accepted : Registry.ofSections sections = .ok registry) :
    (∀ canonical ∈ registry.sections,
      ∀ (region : MarkedRegion) (ending : LineEnding),
        (∀ line ∈ (region.replaceWith canonical ending).rawBody.rawLines,
            line.isMarkerLine = false) ↔
          (ending = .lf → Section.hiddenMarkers canonical.body = [])) ∧
    ((∃ document,
        parse (ofSections registry.sections ManagedFile.placeholder).render =
          .ok document) ↔
      ∀ canonical ∈ registry.sections, canonical.HidesPairs) ∧
    ∀ text document,
      parse text = .ok document →
        ((∃ reread,
            parse (document.merge registry).1.render = .ok reread) ↔
          (document.lineEnding = .lf →
            ∀ canonical,
              .drifted canonical ∈ (document.fates registry).map Prod.fst →
                canonical.HidesPairs)) := by
  have sound := Registry.isSound_of_ofSections accepted
  refine ⟨?_, ?_, ?_⟩
  · intro canonical member region ending
    exact MarkedRegion.isPlain_replaceWith_iff region
      (sound.stored canonical member).body_normal ending
  · exact exists_parse_ofSections_iff sound.stored isPlain_placeholder
  · intro text document read
    exact exists_parse_merge_iff sound read

/-- With CRLF the hidden marker stays hidden. -/
theorem written_readable_crlf :
    ∃ document registry reread,
      parse "<!-- BEGIN: a v1 -->\r\nold\r\n<!-- END: a -->".toList =
          .ok document ∧
        Registry.ofSections
            [⟨"a".toList, "2".toList,
              "x\n<!-- END: a -->\r\r\r\ny".toList⟩] = .ok registry ∧
          parse (document.merge registry).1.render = .ok reread := by
  have read :
      parse "<!-- BEGIN: a v1 -->\r\nold\r\n<!-- END: a -->".toList =
        .ok
          { lead := []
            tail :=
              [({ name := "a".toList
                  version := some "1".toList
                  openingLine := "<!-- BEGIN: a v1 -->\r\n".toList
                  leadingPad := none
                  rawBody := "old\r\n".toList
                  trailingPad := none
                  closingLine := "<!-- END: a -->".toList }, [])]
            lineEnding := .crlf } :=
    rfl
  have accepted :
      Registry.ofSections
          [⟨"a".toList, "2".toList,
            "x\n<!-- END: a -->\r\r\r\ny".toList⟩] =
        .ok
          ⟨[⟨"a".toList, "2".toList,
            "x\n<!-- END: a -->\r\r\ny".toList⟩]⟩ :=
    rfl
  rcases ((written_readable_iff_hidesPairs accepted).2.2 _ _ read).mpr
      (fun feeds => by cases feeds) with ⟨reread, readAgain⟩
  exact ⟨_, _, reread, read, accepted, readAgain⟩

/-- Of three carriage returns behind a marker two are stored, and a document
with line feeds then reads the marker: the fresh document is refused and so is
the merged one. -/
theorem hidden_marker_is_read :
    ∃ document registry fresh merged,
      parse "<!-- BEGIN: a v1 -->\nold\n<!-- END: a -->\n".toList =
          .ok document ∧
        Registry.ofSections
            [⟨"a".toList, "2".toList,
              "x\n<!-- END: a -->\r\r\r\ny".toList⟩] = .ok registry ∧
        (∃ canonical ∈ registry.sections, ∃ region ∈ document.marked,
          ∃ line ∈ (region.replaceWith canonical .lf).rawBody.rawLines,
            line.isMarkerLine = true) ∧
        parse (ofSections registry.sections ManagedFile.placeholder).render =
          .error fresh ∧
        parse (document.merge registry).1.render = .error merged := by
  have read :
      parse "<!-- BEGIN: a v1 -->\nold\n<!-- END: a -->\n".toList =
        .ok
          { lead := []
            tail :=
              [({ name := "a".toList
                  version := some "1".toList
                  openingLine := "<!-- BEGIN: a v1 -->\n".toList
                  leadingPad := none
                  rawBody := "old\n".toList
                  trailingPad := none
                  closingLine := "<!-- END: a -->\n".toList }, [])]
            lineEnding := .lf } :=
    rfl
  have accepted :
      Registry.ofSections
          [⟨"a".toList, "2".toList,
            "x\n<!-- END: a -->\r\r\r\ny".toList⟩] =
        .ok
          ⟨[⟨"a".toList, "2".toList,
            "x\n<!-- END: a -->\r\r\ny".toList⟩]⟩ :=
    rfl
  refine ⟨_, _, _, _, read, accepted, ?_, rfl, rfl⟩
  refine ⟨_, List.mem_singleton_self _, _, List.mem_singleton_self _,
    "<!-- END: a -->\r\n".toList, ?_, ?_⟩
  · decide
  · decide

end Document

end RegionSync
