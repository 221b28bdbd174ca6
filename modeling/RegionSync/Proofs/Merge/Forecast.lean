import RegionSync.ManagedFile
import RegionSync.Proofs.Merge.Rereading

/-!
# What a check says about an update

A merge walks over the regions of a document and replaces some on its way; a
check walks over the sections of the registry and looks each one up in the
document as it stands.  `Forecast` says how the two reports agree: the names
that are updated are those that the check reports and does not call missing.

What a merge does with a region depends on the regions in front of it only
through the question whether one of them has its name.  So the walk of the
merge is a choice among the first regions of their names, `firsts`, and these
are the regions that a look-up finds.
-/

namespace RegionSync

/-! ## First regions -/

namespace MarkedRegion

/-- The regions that are the first of their names, behind regions with the
names `earlier`. -/
def firsts : (earlier : List Text) → List MarkedRegion → List MarkedRegion
  | _, [] => []
  | earlier, region :: rest =>
      let others := firsts (region.name :: earlier) rest
      if region.name ∈ earlier then others else region :: others

@[simp]
theorem firsts_nil (earlier : List Text) : firsts earlier [] = [] :=
  rfl

theorem firsts_cons_of_mem
    {earlier : List Text}
    {region : MarkedRegion}
    (seen : region.name ∈ earlier)
    (rest : List MarkedRegion) :
    firsts earlier (region :: rest) =
      firsts (region.name :: earlier) rest := by
  simp [firsts, seen]

theorem firsts_cons_of_not_mem
    {earlier : List Text}
    {region : MarkedRegion}
    (fresh : region.name ∉ earlier)
    (rest : List MarkedRegion) :
    firsts earlier (region :: rest) =
      region :: firsts (region.name :: earlier) rest := by
  simp [firsts, fresh]

/-- The first regions are those that a look-up of their names finds. -/
theorem mem_firsts_iff
    {earlier : List Text}
    {regions : List MarkedRegion}
    {region : MarkedRegion} :
    region ∈ firsts earlier regions ↔
      region.name ∉ earlier ∧
        regions.find? (fun other => other.name == region.name) =
          some region := by
  induction regions generalizing earlier with
  | nil => simp
  | cons first rest ih =>
      by_cases same : first.name = region.name
      · rw [List.find?_cons_of_pos (by simp [same])]
        by_cases seen : first.name ∈ earlier
        · rw [firsts_cons_of_mem seen, ih]
          rw [same] at seen ⊢
          simp [seen]
        · rw [firsts_cons_of_not_mem seen, List.mem_cons, ih]
          rw [same] at seen ⊢
          simp [seen, eq_comm]
      · rw [List.find?_cons_of_neg (by simp [same])]
        have different : region ≠ first := by
          rintro rfl
          exact same rfl
        by_cases seen : first.name ∈ earlier
        · rw [firsts_cons_of_mem seen, ih]
          simp [Ne.symm same]
        · rw [firsts_cons_of_not_mem seen, List.mem_cons, ih]
          simp [Ne.symm same, different]

/-- The first regions stand in the order in which their names occur first. -/
theorem map_name_firsts
    (earlier : List Text)
    (regions : List MarkedRegion) :
    (firsts earlier regions).map MarkedRegion.name =
      ((regions.map MarkedRegion.name).filter
        fun name => !earlier.contains name).eraseDups := by
  induction regions generalizing earlier with
  | nil => rfl
  | cons region rest ih =>
      rw [List.map_cons]
      by_cases seen : region.name ∈ earlier
      · rw [firsts_cons_of_mem seen, ih,
          List.filter_cons_of_neg (by simpa using seen)]
        congr 1
        refine List.filter_congr fun name _ => ?_
        by_cases same : name = region.name
        · simp [same, seen]
        · simp [same]
      · rw [firsts_cons_of_not_mem seen, List.map_cons, ih,
          List.filter_cons_of_pos (by simpa using seen),
          List.eraseDups_cons, List.filter_filter]
        congr 3
        funext name
        by_cases same : name = region.name
        · simp [same]
        · simp [same]

end MarkedRegion

/-! ## The walk of a merge -/

theorem UpdateReport.namesWith_cons
    (selected : Fate → Bool)
    (fate : Fate)
    (region : MarkedRegion)
    (text : Text)
    (rest : List (Fate × MarkedRegion × Text)) :
    namesWith selected ((fate, region, text) :: rest) =
      if selected fate then region.name :: namesWith selected rest
      else namesWith selected rest := by
  cases chosen : selected fate <;> simp [namesWith, chosen]

namespace Fate

variable {registry : Registry}

theorem of_eq_of_nil
    {earlier : List Text}
    {region : MarkedRegion}
    (fresh : region.name ∉ earlier) :
    of registry earlier region = of registry [] region := by
  simp [of, fresh]

/-- What a merge sorts out are first regions, if it takes no repeated ones. -/
theorem namesWith_assign
    {selected : Fate → Bool}
    (once : selected repeated = false)
    (earlier : List Text)
    (tail : List (MarkedRegion × Text)) :
    UpdateReport.namesWith selected (assign registry earlier tail) =
      ((MarkedRegion.firsts earlier (tail.map Prod.fst)).filter
        fun region => selected (of registry [] region)).map
          MarkedRegion.name := by
  induction tail generalizing earlier with
  | nil => rfl
  | cons entry rest ih =>
      rcases entry with ⟨region, text⟩
      rw [assign, UpdateReport.namesWith_cons, ih, List.map_cons]
      by_cases seen : region.name ∈ earlier
      · have fate : of registry earlier region = repeated := by
          simp [of, seen]
        rw [MarkedRegion.firsts_cons_of_mem seen, fate, once]
        rfl
      · rw [MarkedRegion.firsts_cons_of_not_mem seen, of_eq_of_nil seen,
          List.filter_cons]
        split <;> rfl

theorem isDrifted_of_nil_iff
    {region : MarkedRegion} :
    (of registry [] region).isDrifted = true ↔
      ∃ canonical,
        registry.get? region.name = some canonical ∧
          region.isDriftedFrom canonical = true := by
  constructor
  · intro drifted
    cases fate : of registry [] region with
    | drifted canonical =>
        exact ⟨canonical, (of_eq_drifted_iff.mp fate).2⟩
    | repeated => simp [fate, isDrifted] at drifted
    | foreign => simp [fate, isDrifted] at drifted
    | current => simp [fate, isDrifted] at drifted
  · rintro ⟨canonical, owned, drift⟩
    rw [of_eq_drifted_iff.mpr ⟨List.not_mem_nil, owned, drift⟩]
    rfl

end Fate

/-! ## The two reports -/

namespace Document

/-- Whether no region of a document has a name. -/
def Lacks (document : Document) (name : Text) : Prop :=
  ∀ region ∈ document.marked, region.name ≠ name

/-- Whether a region stands in a document in front of all others of its
name. -/
def HasFirst
    (document : Document)
    (name : Text)
    (region : MarkedRegion) :
    Prop :=
  ∃ before behind,
    document.marked = before ++ region :: behind ∧ region.name = name ∧
      ∀ other ∈ before, other.name ≠ name

theorem get?_eq_none_iff
    {document : Document}
    {name : Text} :
    document.get? name = none ↔ document.Lacks name := by
  simp [get?, Lacks]

theorem get?_eq_some_iff
    {document : Document}
    {name : Text}
    {region : MarkedRegion} :
    document.get? name = some region ↔ document.HasFirst name region := by
  rw [get?, List.find?_eq_some_iff_append, HasFirst]
  simp only [beq_iff_eq, Bool.not_eq_true', beq_eq_false_iff_ne]
  constructor
  · rintro ⟨same, before, behind, whole, others⟩
    exact ⟨before, behind, whole, same, others⟩
  · rintro ⟨before, behind, whole, same, others⟩
    exact ⟨same, before, behind, whole, others⟩

theorem name_of_get?
    {document : Document}
    {name : Text}
    {region : MarkedRegion}
    (found : document.get? name = some region) :
    region.name = name := by
  simpa using List.find?_some found

/-- What the report of a check says about the report of an update. -/
structure Forecast
    (document : Document)
    (registry : Registry)
    (found : CheckReport)
    (done : UpdateReport) :
    Prop where
  updated_iff :
    ∀ name,
      name ∈ done.updated ↔ name ∈ found.sections ∧ name ∉ found.missing
  /-- Updated names stand in the order of their first regions. -/
  updated_order :
    done.updated.Sublist
      (document.marked.map MarkedRegion.name).eraseDups
  sections_iff :
    ∀ canonical ∈ registry.sections,
      canonical.name ∈ found.sections ↔
        document.Lacks canonical.name ∨
          ∃ region,
            document.HasFirst canonical.name region ∧
              region.isDriftedFrom canonical = true
  sections_order : found.sections.Sublist registry.names
  sections_nodup : found.sections.Nodup
  missing_iff :
    ∀ name,
      name ∈ found.missing ↔ name ∈ found.sections ∧ document.Lacks name
  missing_order : found.missing.Sublist found.sections
  hasUpdates_iff : found.hasUpdates = true ↔ found.sections ≠ []

theorem isMissing_iff
    {document : Document}
    {canonical : Section} :
    document.isMissing canonical = true ↔ document.Lacks canonical.name := by
  rw [isMissing, Option.isNone_iff_eq_none, get?_eq_none_iff]

theorem hasDrift_iff
    {document : Document}
    {canonical : Section} :
    document.hasDrift canonical = true ↔
      ∃ region,
        document.get? canonical.name = some region ∧
          region.isDriftedFrom canonical = true := by
  rw [hasDrift, Option.any_eq_true]

variable {registry : Registry}

/-! ### Names by the fate of their first region -/

/-- The names of the marked regions, repetitions included. -/
def markedNames (document : Document) : List Text :=
  document.marked.map MarkedRegion.name

/-- The names whose first region has a fate that is selected. -/
def firstNames
    (document : Document)
    (registry : Registry)
    (selected : Fate → Bool) :
    List Text :=
  ((MarkedRegion.firsts [] document.marked).filter
    fun region => selected (Fate.of registry [] region)).map
      MarkedRegion.name

theorem map_name_firsts_marked (document : Document) :
    (MarkedRegion.firsts [] document.marked).map MarkedRegion.name =
      document.markedNames.eraseDups := by
  rw [MarkedRegion.map_name_firsts, markedNames]
  congr 1
  exact List.filter_eq_self.mpr (by simp)

theorem firstNames_sublist
    (document : Document)
    (selected : Fate → Bool) :
    (document.firstNames registry selected).Sublist
      document.markedNames.eraseDups := by
  rw [← map_name_firsts_marked]
  exact List.filter_sublist.map MarkedRegion.name

theorem mem_firstNames_iff
    {document : Document}
    {selected : Fate → Bool}
    {name : Text} :
    name ∈ document.firstNames registry selected ↔
      ∃ region,
        document.HasFirst name region ∧
          selected (Fate.of registry [] region) = true := by
  simp only [firstNames, List.mem_map, List.mem_filter,
    MarkedRegion.mem_firsts_iff, ← get?_eq_some_iff]
  constructor
  · rintro ⟨region, ⟨⟨-, found⟩, chosen⟩, rfl⟩
    exact ⟨region, found, chosen⟩
  · rintro ⟨region, found, chosen⟩
    obtain rfl := name_of_get? found
    exact ⟨region, ⟨⟨List.not_mem_nil, found⟩, chosen⟩, rfl⟩

theorem updated_merge (document : Document) (registry : Registry) :
    (document.merge registry).2.updated =
      document.firstNames registry Fate.isDrifted :=
  Fate.namesWith_assign rfl [] document.tail

theorem mem_updated_iff
    {document : Document}
    {name : Text} :
    name ∈ (document.merge registry).2.updated ↔
      ∃ canonical region,
        registry.get? name = some canonical ∧
          document.get? name = some region ∧
            region.isDriftedFrom canonical = true := by
  simp only [updated_merge, mem_firstNames_iff, ← get?_eq_some_iff,
    Fate.isDrifted_of_nil_iff]
  constructor
  · rintro ⟨region, found, canonical, owned, drift⟩
    obtain rfl := name_of_get? found
    exact ⟨canonical, region, owned, found, drift⟩
  · rintro ⟨canonical, region, owned, found, drift⟩
    obtain rfl := name_of_get? found
    exact ⟨region, found, canonical, owned, drift⟩

theorem updated_sublist
    (document : Document)
    (registry : Registry) :
    (document.merge registry).2.updated.Sublist
      (document.marked.map MarkedRegion.name).eraseDups := by
  rw [updated_merge]
  exact document.firstNames_sublist Fate.isDrifted

/-! ### Names of a check -/

theorem mem_map_name_filter_iff
    (distinct : registry.names.Nodup)
    {selected : Section → Bool}
    {canonical : Section}
    (member : canonical ∈ registry.sections) :
    canonical.name ∈ (registry.sections.filter selected).map Section.name ↔
      selected canonical = true := by
  constructor
  · intro chosen
    rcases List.mem_map.mp chosen with ⟨other, otherChosen, sameName⟩
    rcases List.mem_filter.mp otherChosen with ⟨otherMember, selects⟩
    rwa [← List.inj_on_of_nodup_map distinct otherMember member sameName]
  · intro selects
    exact List.mem_map_of_mem (List.mem_filter.mpr ⟨member, selects⟩)

theorem mem_sections_iff
    (sound : registry.IsSound)
    {document : Document}
    {canonical : Section}
    (member : canonical ∈ registry.sections) :
    canonical.name ∈ (document.check registry).sections ↔
      document.Lacks canonical.name ∨ document.hasDrift canonical = true := by
  rw [check, mem_map_name_filter_iff sound.distinct member,
    Bool.or_eq_true, isMissing_iff]

theorem mem_missing_iff
    (sound : registry.IsSound)
    {document : Document}
    {canonical : Section}
    (member : canonical ∈ registry.sections) :
    canonical.name ∈ (document.check registry).missing ↔
      document.Lacks canonical.name := by
  rw [check, mem_map_name_filter_iff sound.distinct member, isMissing_iff]

theorem sections_sublist
    (document : Document)
    (registry : Registry) :
    (document.check registry).sections.Sublist registry.names :=
  List.filter_sublist.map Section.name

theorem missing_sublist
    (document : Document)
    (registry : Registry) :
    (document.check registry).missing.Sublist
      (document.check registry).sections := by
  refine List.Sublist.map Section.name (List.monotone_filter_right _ ?_)
  intro canonical missing
  simp [missing]

/-- A check of a document forecasts its update. -/
theorem forecast_check_merge
    (sound : registry.IsSound)
    (document : Document) :
    Forecast document registry (document.check registry)
      (document.merge registry).2 where
  updated_iff := by
    intro name
    rw [mem_updated_iff]
    constructor
    · rintro ⟨canonical, region, owned, found, drift⟩
      rcases Registry.mem_of_get? owned with ⟨member, rfl⟩
      rw [mem_sections_iff sound member, mem_missing_iff sound member,
        ← get?_eq_none_iff, found]
      exact ⟨Or.inr (hasDrift_iff.mpr ⟨region, found, drift⟩), by simp⟩
    · rintro ⟨reported, present⟩
      have named := (sections_sublist document registry).subset reported
      rcases List.mem_map.mp named with ⟨canonical, member, rfl⟩
      rw [mem_missing_iff sound member] at present
      rcases (mem_sections_iff sound member).mp reported with
        lacking | drifted
      · exact absurd lacking present
      · rcases hasDrift_iff.mp drifted with ⟨region, found, drift⟩
        exact ⟨canonical, region, sound.get?_name member, found, drift⟩
  updated_order := updated_sublist document registry
  sections_iff := by
    intro canonical member
    rw [mem_sections_iff sound member, hasDrift_iff]
    simp only [get?_eq_some_iff]
  sections_order := sections_sublist document registry
  sections_nodup := (sections_sublist document registry).nodup sound.distinct
  missing_iff := by
    intro name
    constructor
    · intro reported
      have inSections := (missing_sublist document registry).subset reported
      have named := (sections_sublist document registry).subset inSections
      rcases List.mem_map.mp named with ⟨canonical, member, rfl⟩
      exact ⟨inSections, (mem_missing_iff sound member).mp reported⟩
    · rintro ⟨inSections, lacking⟩
      have named := (sections_sublist document registry).subset inSections
      rcases List.mem_map.mp named with ⟨canonical, member, rfl⟩
      exact (mem_missing_iff sound member).mpr lacking
  missing_order := missing_sublist document registry
  hasUpdates_iff := by
    simp [CheckReport.hasUpdates]

end Document

/-! ## Checks and updates of a file -/

namespace ManagedFile

/-- An update that reads the document and fails to write the merged one. -/
def FailsToWrite
    (managed : ManagedFile)
    (files : FileSystem)
    (refusals : Refusals)
    (fault : ManagedFault) :
    Prop :=
  ∃ document,
    managed.read files = .ok document ∧
      (document.merge managed.registry).2.isChanged = true ∧
      (managed.write (document.merge managed.registry).1.render files
          refusals).1 =
        .error fault

/-- A check and an update fail alike, or the check reports and forecasts what
the update reports unless it fails to write. -/
theorem check_and_update
    (managed : ManagedFile)
    (files : FileSystem)
    (refusals : Refusals) :
    (∃ fault,
      managed.check files = .error fault ∧
        (managed.update files refusals).1 = .error fault) ∨
    ∃ document,
      managed.read files = .ok document ∧
        managed.check files = .ok (document.check managed.registry) ∧
        ((managed.update files refusals).1 =
            .ok (document.merge managed.registry).2 ∨
          ∃ fault,
            (managed.update files refusals).1 = .error fault ∧
              managed.FailsToWrite files refusals fault) := by
  cases read : managed.read files with
  | error fault =>
      refine Or.inl ⟨fault, ?_, ?_⟩
      · rw [check, read]
        rfl
      · rw [update, read]
  | ok document =>
      refine Or.inr ⟨document, rfl, ?_, ?_⟩
      · rw [check, read]
        rfl
      · simp only [update, read]
        by_cases changed :
            (document.merge managed.registry).2.isChanged = true
        · rw [if_pos changed]
          rcases written : managed.write
              (document.merge managed.registry).1.render files refusals with
            ⟨fault | done, left⟩
          · exact Or.inr ⟨fault, rfl, document, read, changed, by rw [written]⟩
          · exact Or.inl rfl
        · rw [if_neg changed]
          exact Or.inl rfl

/-- What a check reports forecasts an update: of the same document, and of
the same file unless the update fails to write it. -/
theorem check_forecasts_update
    {sections : List Section}
    {registry : Registry}
    (accepted : Registry.ofSections sections = .ok registry) :
    (∀ document : Document,
      Document.Forecast document registry (document.check registry)
        (document.merge registry).2) ∧
    ∀ (path : Path) (files : FileSystem) (refusals : Refusals),
      (∃ fault,
        check ⟨path, registry⟩ files = .error fault ∧
          (update ⟨path, registry⟩ files refusals).1 = .error fault) ∨
      ∃ document found,
        read ⟨path, registry⟩ files = .ok document ∧
          check ⟨path, registry⟩ files = .ok found ∧
          ((∃ done,
            (update ⟨path, registry⟩ files refusals).1 = .ok done ∧
              Document.Forecast document registry found done) ∨
          ∃ fault,
            (update ⟨path, registry⟩ files refusals).1 = .error fault ∧
              FailsToWrite ⟨path, registry⟩ files refusals fault) := by
  have sound := Registry.isSound_of_ofSections accepted
  refine ⟨Document.forecast_check_merge sound, fun path files refusals => ?_⟩
  rcases check_and_update ⟨path, registry⟩ files refusals with
    failed | ⟨document, read, checked, updated | failed⟩
  · exact Or.inl failed
  · exact Or.inr ⟨document, _, read, checked,
      Or.inl ⟨_, updated, Document.forecast_check_merge sound document⟩⟩
  · exact Or.inr ⟨document, _, read, checked, Or.inr failed⟩

/-- A drifted region, a current one and a section without a region. -/
theorem check_forecasts_update_mixed :
    ∃ document registry,
      Document.parse
          ("<!-- BEGIN: b v1 -->\nsame\n<!-- END: b -->\n"
            ++ "<!-- BEGIN: a v1 -->\nold\n<!-- END: a -->").toList =
            .ok document ∧
        Registry.ofSections
            [⟨"a".toList, "2".toList, "new".toList⟩,
              ⟨"b".toList, "1".toList, "same".toList⟩,
              ⟨"c".toList, "1".toList, []⟩] = .ok registry ∧
          Document.Forecast document registry
            ⟨["a".toList, "c".toList], ["c".toList]⟩
            ⟨["a".toList], [], []⟩ := by
  have accepted :
      Registry.ofSections
          [⟨"a".toList, "2".toList, "new".toList⟩,
            ⟨"b".toList, "1".toList, "same".toList⟩,
            ⟨"c".toList, "1".toList, []⟩] =
        .ok
          ⟨[⟨"a".toList, "2".toList, "new".toList⟩,
            ⟨"b".toList, "1".toList, "same".toList⟩,
            ⟨"c".toList, "1".toList, []⟩]⟩ :=
    rfl
  exact ⟨_, _, rfl, accepted, (check_forecasts_update accepted).1 _⟩

end ManagedFile

end RegionSync
