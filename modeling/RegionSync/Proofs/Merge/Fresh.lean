import RegionSync.Proofs.Merge.Acceptance
import RegionSync.Proofs.Merge.Idempotence

/-!
# Fresh documents

A fresh document has one region for each section of a registry, written with
line feeds.  If line feeds carry the bodies, a written region is canonical: it
reads back as it is, even if its body is empty.  The regions stand under
distinct names and each says what its section says, so that a merge finds all
of them current and a check finds nothing.

`isSettled_ofSections` puts this together: a fresh document reads back equal
in every part, and there is nothing to do to it.
-/

namespace RegionSync

/-! ## Current regions -/

namespace Fate

variable {registry : Registry} {earlier : List Text}

/-- Each region says what its section says. -/
def AllCurrent (fates : List (Fate × MarkedRegion × Text)) : Prop :=
  ∀ entry ∈ fates, entry.1 = .current

theorem AllCurrent.allQuiet
    {fates : List (Fate × MarkedRegion × Text)}
    (current : AllCurrent fates) :
    AllQuiet fates := by
  intro entry member
  rw [current entry member]
  rfl

theorem AllCurrent.ofFates
    {fates : List (Fate × MarkedRegion × Text)}
    (current : AllCurrent fates) :
    UpdateReport.ofFates fates = ⟨[], [], []⟩ := by
  have none_selected (selected : Fate → Bool)
      (rejected : selected .current = false) :
      UpdateReport.namesWith selected fates = [] := by
    refine List.filterMap_eq_nil_iff.mpr ?_
    rintro ⟨fate, region, text⟩ member
    obtain rfl : fate = .current := current _ member
    simp [rejected]
  rw [UpdateReport.ofFates, none_selected isDrifted rfl,
    none_selected (fun fate => fate == .foreign) rfl,
    none_selected (fun fate => fate == .repeated) rfl]
  rfl

theorem of_eq_current
    {region : MarkedRegion}
    {canonical : Section}
    (fresh : region.name ∉ earlier)
    (owned : registry.get? region.name = some canonical)
    (noDrift : region.isDriftedFrom canonical = false) :
    of registry earlier region = .current := by
  simp [of, fresh, owned, noDrift]

/-- Regions with distinct names that say what their sections say are
current. -/
theorem allCurrent_assign
    {tail : List (MarkedRegion × Text)}
    (distinct : (tail.map fun entry => entry.1.name).Nodup)
    (fresh : ∀ entry ∈ tail, entry.1.name ∉ earlier)
    (owned :
      ∀ entry ∈ tail,
        ∃ canonical,
          registry.get? entry.1.name = some canonical ∧
            entry.1.isDriftedFrom canonical = false) :
    AllCurrent (assign registry earlier tail) := by
  induction tail generalizing earlier with
  | nil => exact fun entry member => absurd member List.not_mem_nil
  | cons first rest ih =>
      rcases first with ⟨region, text⟩
      rw [List.map_cons, List.nodup_cons] at distinct
      rcases distinct with ⟨apart, distinctBelow⟩
      rcases owned _ List.mem_cons_self with ⟨canonical, found, noDrift⟩
      have firstFresh := fresh _ List.mem_cons_self
      have below : AllCurrent (assign registry (region.name :: earlier) rest) := by
        apply ih distinctBelow
        · intro entry member
          rw [List.mem_cons, not_or]
          constructor
          · intro same
            apply apart
            rw [← same]
            exact List.mem_map_of_mem (f := fun entry => entry.1.name) member
          · exact fresh entry (List.mem_cons_of_mem _ member)
        · intro entry member
          exact owned entry (List.mem_cons_of_mem _ member)
      exact List.forall_mem_cons.mpr
        ⟨of_eq_current firstFresh found noDrift, below⟩

end Fate

/-! ## A region for a section -/

namespace MarkedRegion

variable {canonical : Section}

theorem replaceWith_ofSection
    (canonical : Section)
    (ending : LineEnding) :
    (ofSection canonical ending).replaceWith canonical ending =
      ofSection canonical ending :=
  rfl

/-- A section that is carried is written as it will be read, without padding
even if its body is empty. -/
theorem ofSection_isCanonical
    (stored : canonical.IsStored)
    {ending : LineEnding}
    (carries : ending.Carries canonical.body) :
    (ofSection canonical ending).IsCanonical := by
  have framed := ofSection_isFramed stored ending
  have readable := replaceWith_isReadable framed stored carries
  rw [replaceWith_ofSection] at readable
  by_cases empty : canonical.body.lines = []
  · have noBody : (ofSection canonical ending).rawBody = [] := by
      simp [ofSection, LineEnding.terminate, empty]
    have noLines : (ofSection canonical ending).linesBehindPad = [] := by
      rw [linesBehindPad, noBody]
      rfl
    refine
      { toIsReadable := readable
        leading_greedy := ?_
        trailing_greedy := ?_ }
    · intro noPad first member
      simp [innerLines, noPad, noLines] at member
    · intro noPad last member
      simp [noLines] at member
  · have greedy :=
      isGreedy_replaceWith framed stored.body_normal ending empty
    rw [replaceWith_ofSection] at greedy
    exact
      { toIsReadable := readable
        leading_greedy := greedy.leading_greedy
        trailing_greedy := greedy.trailing_greedy }

theorem hasCrlf_render_ofSection_lf
    (stored : canonical.IsStored)
    (carries : LineEnding.lf.Carries canonical.body) :
    (ofSection canonical .lf).render.hasCrlf = false := by
  have framed := ofSection_isFramed stored .lf
  have opening : (ofSection canonical .lf).openingLine.hasCrlf = false :=
    hasCrlf_print_append_lf
      (Marker.isPrintable_of_ofRawLine? framed.opening_marker)
  have body : (ofSection canonical .lf).rawBody.hasCrlf = false :=
    hasCrlf_terminate_lf stored.body_normal carries
  have closing : (ofSection canonical .lf).closingLine.hasCrlf = false :=
    hasCrlf_print_append_lf
      (Marker.isPrintable_of_ofRawLine? framed.closing_marker)
  rw [framed.hasCrlf_render, opening, body, closing]
  rfl

theorem isDriftedFrom_ofSection
    (stored : canonical.IsStored)
    {ending : LineEnding}
    (carries : ending.Carries canonical.body) :
    (ofSection canonical ending).isDriftedFrom canonical = false := by
  rw [← replaceWith_ofSection]
  exact (isDriftedFrom_replaceWith_iff _ stored.body_normal ending).mpr carries

end MarkedRegion

/-! ## A fresh document -/

namespace Document

/-- Parts without CRLF make a text without it. -/
theorem IsLaidOut.hasCrlf_eq_false
    {kind : MarkedRegion → Prop}
    {lead : Text}
    {tail : List (MarkedRegion × Text)}
    (laid : IsLaidOut kind lead tail)
    (leadFree : lead.hasCrlf = false)
    (tailFree :
      ∀ entry ∈ tail,
        entry.1.render.hasCrlf = false ∧ entry.2.hasCrlf = false) :
    (layoutText lead tail).hasCrlf = false := by
  induction laid with
  | last plain => simpa using leadFree
  | next plain complete good ended below ih =>
      rcases List.forall_mem_cons.mp tailFree with
        ⟨⟨regionFree, textFree⟩, restFree⟩
      rw [hasCrlf_layoutText_cons complete ended, leadFree, regionFree,
        ih textFree restFree]
      rfl

theorem mem_freshTail
    {trailer : Text}
    {sections : List Section}
    {entry : MarkedRegion × Text}
    (member : entry ∈ freshTail trailer sections) :
    (∃ canonical ∈ sections, entry.1 = .ofSection canonical .lf) ∧
      (entry.2 = ['\n'] ∨ entry.2 = '\n' :: trailer) := by
  fun_induction freshTail trailer sections with
  | case1 => cases member
  | case2 last =>
      obtain rfl := List.mem_singleton.mp member
      exact ⟨⟨last, by simp, rfl⟩, Or.inr rfl⟩
  | case3 first next rest ih =>
      rcases List.mem_cons.mp member with rfl | below
      · exact ⟨⟨first, by simp, rfl⟩, Or.inl rfl⟩
      · rcases ih below with ⟨⟨canonical, inRest, same⟩, text⟩
        exact ⟨⟨canonical, List.mem_cons_of_mem first inRest, same⟩, text⟩

variable
  {registry : Registry}
  {trailer : Text}

theorem hasCrlf_render_ofSections
    {sections : List Section}
    (stored : ∀ canonical ∈ sections, canonical.IsStored)
    (carried : ∀ canonical ∈ sections, LineEnding.lf.Carries canonical.body)
    (plain : trailer.IsPlain)
    (trailerFree : trailer.hasCrlf = false) :
    (ofSections sections trailer).render.hasCrlf = false := by
  have framed :
      ∀ canonical ∈ sections,
        (MarkedRegion.ofSection canonical .lf).IsFramed :=
    fun canonical member =>
      MarkedRegion.ofSection_isFramed (stored canonical member) .lf
  have laid := isLaidOut_ofSections stored framed plain
  rw [render_eq_layoutText]
  apply laid.hasCrlf_eq_false
  · unfold ofSections
    split
    · exact trailerFree
    · rfl
  · intro entry member
    rcases mem_freshTail member with ⟨⟨canonical, inSections, same⟩, text⟩
    constructor
    · rw [same]
      exact MarkedRegion.hasCrlf_render_ofSection_lf
        (stored canonical inSections) (carried canonical inSections)
    · rcases text with isFeed | isTrailer
      · rw [isFeed]
        rfl
      · rw [isTrailer]
        exact isFullLine_feed.isComplete.hasCrlf_append trailer ▸ trailerFree

/-- A fresh document reads back equal in every part. -/
theorem parse_render_ofSections
    {sections : List Section}
    (stored : ∀ canonical ∈ sections, canonical.IsStored)
    (carried : ∀ canonical ∈ sections, LineEnding.lf.Carries canonical.body)
    (plain : trailer.IsPlain)
    (trailerFree : trailer.hasCrlf = false) :
    parse (ofSections sections trailer).render =
      .ok (ofSections sections trailer) := by
  have canonicals :
      ∀ canonical ∈ sections,
        (MarkedRegion.ofSection canonical .lf).IsCanonical :=
    fun canonical member =>
      MarkedRegion.ofSection_isCanonical (stored canonical member)
        (carried canonical member)
  have laid := isLaidOut_ofSections stored canonicals plain
  have noBreak := hasCrlf_render_ofSections stored carried plain trailerFree
  have read := parse_layoutText (laid.imp fun _ good => good.toIsReadable)
  rw [map_settle_of_isCanonical laid] at read
  rw [render_eq_layoutText] at noBreak ⊢
  have ending :
      (ofSections sections trailer).lineEnding =
        .detect
          (layoutText (ofSections sections trailer).lead
            (ofSections sections trailer).tail) := by
    rw [LineEnding.detect, noBreak]
    rfl
  rw [read, ← ending]

theorem map_name_ofSections
    (sections : List Section)
    (trailer : Text) :
    (ofSections sections trailer).marked.map MarkedRegion.name =
      sections.map Section.name := by
  have regions :
      (ofSections sections trailer).marked =
        sections.map fun canonical => .ofSection canonical .lf :=
    map_fst_freshTail trailer sections
  rw [regions, List.map_map]
  rfl

/-- The regions of a fresh document are current. -/
theorem allCurrent_ofSections
    (sound : registry.IsSound)
    (carried :
      ∀ canonical ∈ registry.sections,
        LineEnding.lf.Carries canonical.body)
    (trailer : Text) :
    Fate.AllCurrent
      ((ofSections registry.sections trailer).fates registry) := by
  apply Fate.allCurrent_assign
  · have names := map_name_ofSections registry.sections trailer
    rw [marked, List.map_map] at names
    change (List.map (MarkedRegion.name ∘ Prod.fst) _).Nodup
    rw [names]
    exact sound.distinct
  · exact fun entry _ => List.not_mem_nil
  · intro entry member
    rcases mem_freshTail member with ⟨⟨canonical, inSections, same⟩, -⟩
    refine ⟨canonical, ?_, ?_⟩
    · rw [same]
      exact sound.get?_name inSections
    · rw [same]
      exact MarkedRegion.isDriftedFrom_ofSection
        (sound.stored canonical inSections) (carried canonical inSections)

theorem absent_ofSections
    (registry : Registry)
    (trailer : Text) :
    (ofSections registry.sections trailer).absent registry = [] := by
  rw [absent, map_name_ofSections, Registry.names]
  refine List.filter_eq_nil_iff.mpr fun name member => ?_
  simpa using member

/-- There is nothing to do to a document: it reads back equal, a check finds
nothing, and a merge changes nothing and has nothing to report. -/
structure IsSettled (document : Document) (registry : Registry) : Prop where
  reads : parse document.render = .ok document
  check_eq : document.check registry = ⟨[], []⟩
  noUpdates : (document.check registry).hasUpdates = false
  merge_eq : document.merge registry = (document, ⟨[], [], []⟩)

/-- A fresh document is settled if line feeds carry the bodies. -/
theorem isSettled_ofSections
    (sound : registry.IsSound)
    (carried :
      ∀ canonical ∈ registry.sections,
        LineEnding.lf.Carries canonical.body)
    (plain : trailer.IsPlain)
    (trailerFree : trailer.hasCrlf = false) :
    (ofSections registry.sections trailer).IsSettled registry := by
  have current := allCurrent_ofSections sound carried trailer
  have noneAbsent := absent_ofSections registry trailer
  have sections := check_sections_of_allQuiet sound current.allQuiet
  have missing := check_missing (ofSections registry.sections trailer) registry
  rw [noneAbsent] at sections missing
  have reported :
      ((ofSections registry.sections trailer).merge registry).2 =
        ⟨[], [], []⟩ :=
    current.ofFates
  have unchanged :
      ((ofSections registry.sections trailer).merge registry).1 =
        ofSections registry.sections trailer := by
    apply merge_fst_of_isChanged_eq_false
    rw [reported]
    rfl
  constructor
  · exact parse_render_ofSections sound.stored carried plain trailerFree
  · rcases checked : (ofSections registry.sections trailer).check registry with
      ⟨found, lacking⟩
    rw [checked] at sections missing
    obtain rfl : found = [] := sections
    obtain rfl : lacking = [] := missing
    rfl
  · rw [CheckReport.hasUpdates, sections]
    rfl
  · exact Prod.ext unchanged reported

end Document

end RegionSync
