import RegionSync.Proofs.Region.Replacing

/-!
# Reading a merged document

A merge walks over the marked regions with the names it has already met.
`Fate.of_cases` says once what it can find at a region; `mergedTail` is the
walk, with one equation for each region.

The main statement is `parse_render_merge`.  If the document's line ending
carries the body of every section that is written, then the merged document
reads back, with the same line ending, and each region as it settles.
-/

namespace RegionSync

namespace Fate

variable {registry : Registry} {earlier : List Text} {region : MarkedRegion}

/-- The four fates of a region, each with what leads to it. -/
theorem of_cases
    (registry : Registry)
    (earlier : List Text)
    (region : MarkedRegion) :
    (region.name ∈ earlier ∧ of registry earlier region = repeated) ∨
    (region.name ∉ earlier ∧ registry.get? region.name = none ∧
      of registry earlier region = foreign) ∨
    ∃ canonical,
      region.name ∉ earlier ∧
        registry.get? region.name = some canonical ∧
        (region.isDriftedFrom canonical = true ∧
            of registry earlier region = drifted canonical ∨
          region.isDriftedFrom canonical = false ∧
            of registry earlier region = current) := by
  by_cases seen : region.name ∈ earlier
  · exact Or.inl ⟨seen, by simp [of, seen]⟩
  · refine Or.inr ?_
    cases owned : registry.get? region.name with
    | none => exact Or.inl ⟨seen, rfl, by simp [of, seen, owned]⟩
    | some canonical =>
        refine Or.inr ⟨canonical, seen, rfl, ?_⟩
        cases drift : region.isDriftedFrom canonical with
        | true => exact Or.inl ⟨rfl, by simp [of, seen, owned, drift]⟩
        | false => exact Or.inr ⟨rfl, by simp [of, seen, owned, drift]⟩

/-- A region is replaced if it is the first of its name, the registry has a
section of that name, and the region has drifted from it. -/
theorem of_eq_drifted_iff
    {canonical : Section} :
    of registry earlier region = drifted canonical ↔
      region.name ∉ earlier ∧ registry.get? region.name = some canonical ∧
        region.isDriftedFrom canonical = true := by
  rcases of_cases registry earlier region with
    ⟨seen, fate⟩ | ⟨fresh, owned, fate⟩ |
      ⟨found, fresh, owned, ⟨drift, fate⟩ | ⟨drift, fate⟩⟩
  · simp [fate, seen]
  · simp [fate, owned]
  · simp only [fate, owned, drifted.injEq, Option.some.injEq]
    constructor
    · rintro rfl
      exact ⟨fresh, rfl, drift⟩
    · rintro ⟨-, same, -⟩
      exact same
  · simp only [fate, owned, reduceCtorEq, Option.some.injEq, false_iff]
    rintro ⟨-, rfl, absurdity⟩
    rw [drift] at absurdity
    cases absurdity

@[simp]
theorem apply_name
    (fate : Fate)
    (ending : LineEnding)
    (region : MarkedRegion) :
    (fate.apply ending region).name = region.name := by
  cases fate <;> rfl

@[simp]
theorem apply_closingLine
    (fate : Fate)
    (ending : LineEnding)
    (region : MarkedRegion) :
    (fate.apply ending region).closingLine = region.closingLine := by
  cases fate <;> rfl

theorem apply_of_not_isDrifted
    {fate : Fate}
    (untouched : fate.isDrifted = false)
    (ending : LineEnding)
    (region : MarkedRegion) :
    fate.apply ending region = region := by
  cases fate with
  | drifted canonical => cases untouched
  | repeated => rfl
  | foreign => rfl
  | current => rfl

/-- Each section that is written is carried by the line ending. -/
def AllCarried
    (ending : LineEnding)
    (fates : List (Fate × MarkedRegion × Text)) :
    Prop :=
  ∀ canonical, drifted canonical ∈ fates.map Prod.fst →
    ending.Carries canonical.body

theorem allCarried_cons
    {ending : LineEnding}
    {entry : Fate × MarkedRegion × Text}
    {rest : List (Fate × MarkedRegion × Text)} :
    AllCarried ending (entry :: rest) ↔
      (∀ canonical, entry.1 = drifted canonical →
        ending.Carries canonical.body) ∧ AllCarried ending rest := by
  simp only [AllCarried, List.map_cons, List.mem_cons]
  constructor
  · intro carried
    exact ⟨fun canonical same => carried canonical (Or.inl same.symm),
      fun canonical member => carried canonical (Or.inr member)⟩
  · rintro ⟨first, below⟩ canonical (same | member)
    · exact first canonical same.symm
    · exact below canonical member

theorem mem_sections_of_drifted
    {tail : List (MarkedRegion × Text)}
    {canonical : Section}
    (written :
      drifted canonical ∈ (assign registry earlier tail).map Prod.fst) :
    canonical ∈ registry.sections := by
  induction tail generalizing earlier with
  | nil => simp [assign] at written
  | cons entry rest ih =>
      rcases entry with ⟨region, text⟩
      rw [assign, List.map_cons, List.mem_cons] at written
      rcases written with first | below
      · have owned := (of_eq_drifted_iff.mp first.symm).2.1
        exact (Registry.mem_of_get? owned).1
      · exact ih below

/-! ## One region -/

section Region

variable {ending : LineEnding}

/-- A merge keeps a region or writes a section of the registry into it. -/
theorem apply_cases
    (sound : registry.IsSound)
    (earlier : List Text)
    (ending : LineEnding)
    (region : MarkedRegion) :
    (of registry earlier region).apply ending region = region ∨
      ∃ canonical,
        canonical.IsStored ∧
          of registry earlier region = drifted canonical ∧
          (of registry earlier region).apply ending region =
            region.replaceWith canonical ending := by
  cases fate : of registry earlier region with
  | drifted canonical =>
      have owned := (of_eq_drifted_iff.mp fate).2.1
      have member := (Registry.mem_of_get? owned).1
      exact Or.inr ⟨canonical, sound.stored canonical member, rfl, rfl⟩
  | repeated => exact Or.inl rfl
  | foreign => exact Or.inl rfl
  | current => exact Or.inl rfl

/-- What a canonical region becomes is readable if its new body is carried. -/
theorem apply_isReadable
    (sound : registry.IsSound)
    (good : region.IsCanonical)
    (carried :
      ∀ canonical, of registry earlier region = drifted canonical →
        ending.Carries canonical.body) :
    ((of registry earlier region).apply ending region).IsReadable := by
  rcases apply_cases sound earlier ending region with
    same | ⟨canonical, stored, fate, same⟩
  · rw [same]
    exact good.toIsReadable
  · rw [same]
    exact MarkedRegion.replaceWith_isReadable good.toIsFramed stored
      (carried canonical fate)

/-- What a canonical region becomes says the same when it is read back. -/
theorem contents_settle_apply
    (sound : registry.IsSound)
    (good : region.IsCanonical) :
    ((of registry earlier region).apply ending region).settle.contents =
      ((of registry earlier region).apply ending region).contents := by
  rcases apply_cases sound earlier ending region with
    same | ⟨canonical, stored, -, same⟩
  · rw [same, good.settle_eq]
  · rw [same]
    exact MarkedRegion.contents_settle_replaceWith good.toIsFramed
      stored.body_normal ending

end Region

end Fate

namespace Document

/-! ## The walk over a document -/

/-- Marked regions as the merge leaves them, where `earlier` are the names of
the regions in front. -/
def mergedTail
    (registry : Registry)
    (ending : LineEnding)
    (earlier : List Text)
    (tail : List (MarkedRegion × Text)) :
    List (MarkedRegion × Text) :=
  (Fate.assign registry earlier tail).map fun (fate, region, text) =>
    (fate.apply ending region, text)

@[simp]
theorem mergedTail_nil
    (registry : Registry)
    (ending : LineEnding)
    (earlier : List Text) :
    mergedTail registry ending earlier [] = [] :=
  rfl

@[simp]
theorem mergedTail_cons
    (registry : Registry)
    (ending : LineEnding)
    (earlier : List Text)
    (region : MarkedRegion)
    (text : Text)
    (rest : List (MarkedRegion × Text)) :
    mergedTail registry ending earlier ((region, text) :: rest) =
      ((Fate.of registry earlier region).apply ending region, text) ::
        mergedTail registry ending (region.name :: earlier) rest :=
  rfl

@[simp]
theorem mergedTail_eq_nil_iff
    {registry : Registry}
    {ending : LineEnding}
    {earlier : List Text}
    {tail : List (MarkedRegion × Text)} :
    mergedTail registry ending earlier tail = [] ↔ tail = [] := by
  cases tail with
  | nil => simp
  | cons entry rest =>
      rcases entry with ⟨region, text⟩
      simp

/-- A merge leaves the names, the closing lines and the free texts. -/
theorem map_mergedTail
    {α : Type}
    {registry : Registry}
    {ending : LineEnding}
    {view : MarkedRegion × Text → α}
    (blind :
      ∀ fate : Fate, ∀ region text,
        view (fate.apply ending region, text) = view (region, text))
    (earlier : List Text)
    (tail : List (MarkedRegion × Text)) :
    (mergedTail registry ending earlier tail).map view = tail.map view := by
  induction tail generalizing earlier with
  | nil => rfl
  | cons entry rest ih =>
      rcases entry with ⟨region, text⟩
      rw [mergedTail_cons, List.map_cons, List.map_cons, blind, ih]

theorem merge_fst
    (document : Document)
    (registry : Registry) :
    (document.merge registry).1 =
      { document with
        tail :=
          mergedTail registry document.lineEnding [] document.tail } :=
  rfl

variable {registry : Registry} {ending : LineEnding}

theorem isLaidOut_mergedTail
    (sound : registry.IsSound)
    {earlier : List Text}
    {lead : Text}
    {tail : List (MarkedRegion × Text)}
    (laid : IsLaidOut MarkedRegion.IsCanonical lead tail)
    (carried :
      Fate.AllCarried ending (Fate.assign registry earlier tail)) :
    IsLaidOut MarkedRegion.IsReadable lead
      (mergedTail registry ending earlier tail) := by
  induction laid generalizing earlier with
  | last plain => exact .last plain
  | @next lead text region rest plain complete good ended _ ih =>
      rcases Fate.allCarried_cons.mp carried with ⟨first, below⟩
      have readable := Fate.apply_isReadable sound good first
      rw [mergedTail_cons]
      exact .next plain complete readable (by simpa using ended) (ih below)

end Document

/-! ## The line ending -/

namespace MarkedRegion

theorem IsFramed.hasCrlf_render
    {region : MarkedRegion}
    (framed : region.IsFramed) :
    region.render.hasCrlf =
      (region.openingLine.hasCrlf ||
        (Text.hasCrlf (region.leadingPad.getD []) ||
          (region.rawBody.hasCrlf ||
            (Text.hasCrlf (region.trailingPad.getD []) ||
              region.closingLine.hasCrlf)))) := by
  have leadingComplete := isComplete_getD framed.leading_isPad
  have trailingComplete := isComplete_getD framed.trailing_isPad
  simp only [render, List.append_assoc]
  rw [framed.opening_full.isComplete.hasCrlf_append,
    leadingComplete.hasCrlf_append, framed.body_complete.hasCrlf_append,
    trailingComplete.hasCrlf_append]

theorem isComplete_render
    {region : MarkedRegion}
    (full : region.closingLine.IsFullLine) :
    region.render.IsComplete :=
  full.isComplete.append_right _ full.ne_nil

variable {region : MarkedRegion} {canonical : Section}

theorem hasCrlf_print_append_lf
    {marker : Marker}
    (printable : marker.IsPrintable) :
    Text.hasCrlf (marker.print ++ LineEnding.lf.text) = false := by
  have noFeed := Marker.feed_not_mem_print printable
  have noReturn : marker.print.getLast? ≠ some '\r' := by
    rw [Marker.getLast?_print]
    decide
  exact Text.hasCrlf_append_feed [] noFeed noReturn

theorem hasCrlf_terminate_lf
    {body : Text}
    (normal : Section.IsNormalBody body)
    (carries : LineEnding.lf.Carries body) :
    (LineEnding.lf.terminate body.lines).hasCrlf = false := by
  by_cases empty : body = []
  · rw [empty]
    rfl
  · have incomplete := Text.not_isComplete_of_unended empty normal.unended
    rw [LineEnding.terminate_lines _ incomplete,
      Text.foldBreaks_eq_self carries.1]
    exact Text.hasCrlf_append_final_feed carries.1 (carries.2 rfl)

/-- A section written with line feeds brings no CRLF. -/
theorem hasCrlf_render_replaceWith_lf
    (framed : region.IsFramed)
    (stored : canonical.IsStored)
    (carries : LineEnding.lf.Carries canonical.body)
    (noBreak : region.render.hasCrlf = false) :
    (region.replaceWith canonical .lf).render.hasCrlf = false := by
  have framedAfter := replaceWith_isFramed framed stored .lf
  have opening :
      (region.replaceWith canonical .lf).openingLine.hasCrlf = false :=
    hasCrlf_print_append_lf
      (Marker.isPrintable_of_ofRawLine? framedAfter.opening_marker)
  have body :
      (region.replaceWith canonical .lf).rawBody.hasCrlf = false :=
    hasCrlf_terminate_lf stored.body_normal carries
  rw [framed.hasCrlf_render] at noBreak
  simp only [Bool.or_eq_false_iff] at noBreak
  rcases noBreak with ⟨-, leading, -, trailing, closing⟩
  rw [framedAfter.hasCrlf_render, opening, body]
  simp only [replaceWith, leading, trailing, closing, Bool.or_self]

/-- A section written with CRLF brings one, on the opening line. -/
theorem hasCrlf_render_replaceWith_crlf
    (framed : region.IsFramed)
    (stored : canonical.IsStored) :
    (region.replaceWith canonical .crlf).render.hasCrlf = true := by
  have framed := replaceWith_isFramed framed stored .crlf
  have noFeed :=
    Marker.feed_not_mem_print
      (Marker.isPrintable_of_ofRawLine? framed.opening_marker)
  have opening :
      (region.replaceWith canonical .crlf).openingLine.hasCrlf = true :=
    Text.hasCrlf_append_return_feed noFeed
  rw [framed.hasCrlf_render, opening, Bool.true_or]

end MarkedRegion

namespace Document

variable {registry : Registry} {ending : LineEnding}

theorem hasCrlf_layoutText_cons
    {lead text : Text}
    {region : MarkedRegion}
    {rest : List (MarkedRegion × Text)}
    (complete : lead.IsComplete)
    (ended : region.closingLine.IsFullLine ∨ text = [] ∧ rest = []) :
    (layoutText lead ((region, text) :: rest)).hasCrlf =
      (lead.hasCrlf ||
        (region.render.hasCrlf || (layoutText text rest).hasCrlf)) := by
  rw [layoutText_cons, complete.hasCrlf_append]
  rcases ended with full | ⟨rfl, rfl⟩
  · rw [(MarkedRegion.isComplete_render full).hasCrlf_append]
  · simp [Text.hasCrlf]

/-- A merge with line feeds leaves a text without CRLF so. -/
theorem hasCrlf_mergedTail_lf
    (sound : registry.IsSound)
    {earlier : List Text}
    {lead : Text}
    {tail : List (MarkedRegion × Text)}
    (laid : IsLaidOut MarkedRegion.IsCanonical lead tail)
    (carried : Fate.AllCarried .lf (Fate.assign registry earlier tail))
    (noBreak : (layoutText lead tail).hasCrlf = false) :
    (layoutText lead (mergedTail registry .lf earlier tail)).hasCrlf =
      false := by
  induction laid generalizing earlier with
  | last plain => exact noBreak
  | @next lead text region rest plain complete good ended _ ih =>
      rcases Fate.allCarried_cons.mp carried with ⟨first, below⟩
      rw [hasCrlf_layoutText_cons complete ended] at noBreak
      simp only [Bool.or_eq_false_iff] at noBreak
      rcases noBreak with ⟨leadFree, regionFree, restFree⟩
      have applied :
          ((Fate.of registry earlier region).apply
            .lf region).render.hasCrlf = false := by
        rcases Fate.apply_cases sound earlier .lf region with
          same | ⟨canonical, stored, fate, same⟩
        · rw [same, regionFree]
        · rw [same]
          exact MarkedRegion.hasCrlf_render_replaceWith_lf good.toIsFramed
            stored (first canonical fate) regionFree
      rw [mergedTail_cons,
        hasCrlf_layoutText_cons complete (by simpa using ended), leadFree,
        applied, ih below restFree]
      rfl

/-- A merge with CRLF leaves some CRLF in a text that has one. -/
theorem hasCrlf_mergedTail_crlf
    (sound : registry.IsSound)
    {earlier : List Text}
    {lead : Text}
    {tail : List (MarkedRegion × Text)}
    (laid : IsLaidOut MarkedRegion.IsCanonical lead tail)
    (someBreak : (layoutText lead tail).hasCrlf = true) :
    (layoutText lead (mergedTail registry .crlf earlier tail)).hasCrlf =
      true := by
  induction laid generalizing earlier with
  | last plain => exact someBreak
  | @next lead text region rest plain complete good ended _ ih =>
      rw [hasCrlf_layoutText_cons complete ended] at someBreak
      simp only [Bool.or_eq_true] at someBreak
      have applied (has : region.render.hasCrlf = true) :
          ((Fate.of registry earlier region).apply
            .crlf region).render.hasCrlf = true := by
        rcases Fate.apply_cases sound earlier .crlf region with
          same | ⟨canonical, stored, -, same⟩
        · rw [same, has]
        · rw [same]
          exact MarkedRegion.hasCrlf_render_replaceWith_crlf good.toIsFramed
            stored
      rw [mergedTail_cons,
        hasCrlf_layoutText_cons complete (by simpa using ended)]
      simp only [Bool.or_eq_true]
      exact someBreak.imp_right (Or.imp applied ih)

/-- A merge keeps the line ending that is detected. -/
theorem detect_mergedTail
    (sound : registry.IsSound)
    {earlier : List Text}
    {lead : Text}
    {tail : List (MarkedRegion × Text)}
    (laid : IsLaidOut MarkedRegion.IsCanonical lead tail)
    (carried : Fate.AllCarried ending (Fate.assign registry earlier tail))
    (detected : ending = .detect (layoutText lead tail)) :
    .detect (layoutText lead (mergedTail registry ending earlier tail)) =
      ending := by
  cases has : (layoutText lead tail).hasCrlf with
  | false =>
      obtain rfl : ending = .lf := by
        simpa [LineEnding.detect, has] using detected
      simp [LineEnding.detect, hasCrlf_mergedTail_lf sound laid carried has]
  | true =>
      obtain rfl : ending = .crlf := by
        simpa [LineEnding.detect, has] using detected
      simp [LineEnding.detect, hasCrlf_mergedTail_crlf sound laid has]

/-! ## The merged document -/

@[simp]
theorem marked_mapMarked
    (document : Document)
    (change : MarkedRegion → MarkedRegion) :
    (document.mapMarked change).marked = document.marked.map change := by
  simp [mapMarked, marked, Function.comp_def]

@[simp]
theorem free_mapMarked
    (document : Document)
    (change : MarkedRegion → MarkedRegion) :
    (document.mapMarked change).free = document.free := by
  simp [mapMarked, free, Function.comp_def]

/-- A merged document reads back, each region as it settles. -/
theorem parse_render_merge
    (sound : registry.IsSound)
    {text : Text}
    {document : Document}
    (read : parse text = .ok document)
    (carried :
      Fate.AllCarried document.lineEnding (document.fates registry)) :
    parse (document.merge registry).1.render =
      .ok ((document.merge registry).1.mapMarked MarkedRegion.settle) := by
  rcases parse_eq_ok_iff.mp read with ⟨-, detected⟩
  have laid := isLaidOut_of_parse read
  rw [← layoutText_of_parse read] at detected
  have ending := detect_mergedTail sound laid carried detected
  have reread := parse_layoutText (isLaidOut_mergedTail sound laid carried)
  rw [ending] at reread
  exact reread

theorem contents_settle_mergedTail
    (sound : registry.IsSound)
    {earlier : List Text}
    {tail : List (MarkedRegion × Text)}
    (good : ∀ entry ∈ tail, entry.1.IsCanonical) :
    (mergedTail registry ending earlier tail).map
        (fun entry => entry.1.settle.contents) =
      (mergedTail registry ending earlier tail).map
        (fun entry => entry.1.contents) := by
  induction tail generalizing earlier with
  | nil => rfl
  | cons entry rest ih =>
      rcases entry with ⟨region, text⟩
      rcases List.forall_mem_cons.mp good with ⟨first, below⟩
      rw [mergedTail_cons, List.map_cons, List.map_cons, ih below,
        Fate.contents_settle_apply sound first]

theorem contents_marked_settle
    (sound : registry.IsSound)
    {text : Text}
    {document : Document}
    (read : parse text = .ok document) :
    ((document.merge registry).1.mapMarked
          MarkedRegion.settle).marked.map MarkedRegion.contents =
      (document.merge registry).1.marked.map MarkedRegion.contents := by
  rw [marked_mapMarked, merge_fst, marked, List.map_map, List.map_map,
    List.map_map]
  exact contents_settle_mergedTail sound (isLaidOut_of_parse read).sound

end Document

end RegionSync
