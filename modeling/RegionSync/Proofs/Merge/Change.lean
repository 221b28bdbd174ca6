import RegionSync.Proofs.Merge.Forecast
import RegionSync.Proofs.Merge.Idempotence

/-!
# What a merge changes

The report of a merge names the regions that had drifted.  Drift is a matter
of what a region says, with breaks folded and the look of the opening line
left aside; a change is a matter of its text.  This module shows that the two
agree wherever the line ending carries the bodies that are written.

One direction rests on `settle_eq_of_render_eq`: the text of a region fixes
its name, its version and its body, so a section cannot be written into a
drifted region without a trace.  For a whole document the changes of several
regions could cancel out; they do not, because a text reads as one document,
and what was written no longer drifts.
-/

namespace RegionSync

/-! ## One region -/

namespace MarkedRegion

variable {region : MarkedRegion} {canonical : Section} {ending : LineEnding}

theorem IsFramed.rawLines_render
    (framed : region.IsFramed) :
    region.render.rawLines =
      region.openingLine :: (region.innerLines ++ [region.closingLine]) := by
  have cut := framed.rawLines_render_append []
  have single : region.closingLine.rawLines = [region.closingLine] :=
    framed.closing_isLine
  rwa [List.append_nil, List.append_nil, single] at cut

/-- Framed regions with the same text are read as the same region. -/
theorem settle_eq_of_render_eq
    {other : MarkedRegion}
    (framed : region.IsFramed)
    (otherFramed : other.IsFramed)
    (same : region.render = other.render) :
    region.settle = other.settle := by
  have lines := framed.rawLines_render
  rw [same, otherFramed.rawLines_render] at lines
  obtain ⟨opening, behind⟩ := List.cons.inj lines
  obtain ⟨inner, closing⟩ := List.append_inj' behind rfl
  have marker := framed.opening_marker
  rw [← opening, otherFramed.opening_marker] at marker
  obtain ⟨name, version⟩ := Marker.opening.inj (Option.some.inj marker)
  rw [settle, settle, name, version, opening, inner,
    (List.cons.inj closing).1]

/-- A section that is carried changes the text of the drifted region it is
written into. -/
theorem render_replaceWith_ne
    (good : region.IsCanonical)
    (stored : canonical.IsStored)
    (carries : ending.Carries canonical.body)
    (drift : region.isDriftedFrom canonical = true) :
    (region.replaceWith canonical ending).render ≠ region.render := by
  intro same
  have framed := replaceWith_isFramed good.toIsFramed stored ending
  have settled := settle_eq_of_render_eq framed good.toIsFramed same
  have contents :=
    contents_settle_replaceWith good.toIsFramed stored.body_normal ending
  rw [settled, good.settle_eq] at contents
  have current :=
    (isDriftedFrom_replaceWith_iff region stored.body_normal ending).mpr
      carries
  rw [← isDriftedFrom_congr contents, drift] at current
  cases current

end MarkedRegion

/-! ## Documents -/

namespace Document

variable {registry : Registry} {ending : LineEnding}

theorem find?_mergedTail
    {name : Text}
    {earlier : List Text}
    (fresh : name ∉ earlier)
    (tail : List (MarkedRegion × Text)) :
    ((mergedTail registry ending earlier tail).map Prod.fst).find?
        (fun region => region.name == name) =
      ((tail.map Prod.fst).find? fun region => region.name == name).map
        fun region => (Fate.of registry [] region).apply ending region := by
  induction tail generalizing earlier with
  | nil => rfl
  | cons entry rest ih =>
      rcases entry with ⟨region, text⟩
      rw [mergedTail_cons, List.map_cons, List.map_cons]
      by_cases same : region.name = name
      · rw [List.find?_cons_of_pos (by simpa using same),
          List.find?_cons_of_pos (by simpa using same), Option.map_some,
          Fate.of_eq_of_nil (by rwa [same])]
      · rw [List.find?_cons_of_neg (by simpa using same),
          List.find?_cons_of_neg (by simpa using same)]
        exact ih (by simp [fresh, Ne.symm same])

/-- A look-up in a merged document finds what became of the first region. -/
theorem get?_merge
    (document : Document)
    (registry : Registry)
    (name : Text) :
    (document.merge registry).1.get? name =
      (document.get? name).map fun region =>
        (Fate.of registry [] region).apply document.lineEnding region := by
  rw [merge_fst]
  exact find?_mergedTail List.not_mem_nil document.tail

/-- The text of the first region of a name. -/
def firstText? (document : Document) (name : Text) : Option Text :=
  (document.get? name).map MarkedRegion.render

theorem isCanonical_of_get?
    {text name : Text}
    {document : Document}
    {region : MarkedRegion}
    (read : parse text = .ok document)
    (found : document.get? name = some region) :
    region.IsCanonical := by
  have member := List.mem_of_find?_eq_some found
  rcases List.mem_map.mp member with ⟨entry, inTail, rfl⟩
  exact (isLaidOut_of_parse read).sound entry inTail

section Carried

variable
  {text : Text}
  {document : Document}
  (read : parse text = .ok document)
  (sound : registry.IsSound)
  (carries :
    ∀ canonical ∈ registry.sections,
      document.lineEnding.Carries canonical.body)

include read sound carries

/-- A name is reported as updated exactly if the text of its first region
changes. -/
theorem mem_updated_iff_firstText?_ne
    {name : Text} :
    name ∈ (document.merge registry).2.updated ↔
      (document.merge registry).1.firstText? name ≠
        document.firstText? name := by
  rw [mem_updated_iff, firstText?, firstText?, get?_merge]
  constructor
  · rintro ⟨canonical, region, owned, found, drift⟩ same
    obtain rfl := name_of_get? found
    have member := (Registry.mem_of_get? owned).1
    have fate : Fate.of registry [] region = .drifted canonical :=
      Fate.of_eq_drifted_iff.mpr ⟨List.not_mem_nil, owned, drift⟩
    rw [found, Option.map_some, Option.map_some, Option.map_some, fate]
      at same
    exact MarkedRegion.render_replaceWith_ne (isCanonical_of_get? read found)
      (sound.stored canonical member) (carries canonical member) drift
      (Option.some.inj same)
  · intro changed
    cases found : document.get? name with
    | none => simp [found] at changed
    | some region =>
        obtain rfl := name_of_get? found
        cases drifted : (Fate.of registry [] region).isDrifted with
        | false =>
            rw [found, Option.map_some,
              Fate.apply_of_not_isDrifted drifted] at changed
            exact absurd rfl changed
        | true =>
            rcases Fate.isDrifted_of_nil_iff.mp drifted with
              ⟨canonical, owned, drift⟩
            exact ⟨canonical, region, owned, rfl, drift⟩

/-- A merge reports an update exactly if it changes the text. -/
theorem isChanged_iff_render_ne :
    (document.merge registry).2.isChanged = true ↔
      (document.merge registry).1.render ≠ text := by
  have render_eq : document.render = text := by
    rw [render_eq_layoutText, layoutText_of_parse read]
  constructor
  · intro changed same
    have carried :
        Fate.AllCarried document.lineEnding (document.fates registry) :=
      fun canonical written =>
        carries canonical (Fate.mem_sections_of_drifted written)
    have readAgain := parse_render_merge sound read carried
    have quiet :
        Fate.AllQuiet
          (((document.merge registry).1.mapMarked
            MarkedRegion.settle).fates registry) :=
      allQuiet_mergedTail sound (isLaidOut_of_parse read).sound carried
    -- The text that was written is the text that was read.
    rw [same, read] at readAgain
    rw [← Except.ok.inj readAgain] at quiet
    have updated : (document.merge registry).2.updated = [] :=
      Fate.updated_eq_nil_iff.mpr quiet
    simp [UpdateReport.isChanged, updated] at changed
  · intro differs
    by_contra unchanged
    rw [Bool.not_eq_true] at unchanged
    rw [merge_fst_of_isChanged_eq_false unchanged] at differs
    exact differs render_eq

end Carried

end Document

end RegionSync
