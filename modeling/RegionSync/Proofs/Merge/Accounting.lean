import RegionSync.Proofs.Merge.Forecast

/-!
# What the report of a merge accounts for

Every name of a document has one first region, and a merge replaces it, finds
that it belongs to no section, or leaves it as current.  So the names that the
report calls updated or preserved and the names that are current make up all
names, and no name is counted twice: `accountsFor_merge`.

Repeated names are found in two ways.  The merge collects every region whose
name it has met and drops repetitions from the result; `duplicates` waits for
the second occurrence.  `eraseDups_repeats` says that both give one list.
-/

namespace RegionSync

/-! ## Second occurrences -/

namespace Document

/-- The names of some regions that have occurred before, where `earlier` are
the names in front. -/
def repeats (earlier : List Text) : List Text → List Text
  | [] => []
  | name :: rest =>
      let others := repeats (name :: earlier) rest
      if earlier.contains name then name :: others else others

/-- Whether a name stands at a position for the second time, where `earlier`
are the names in front of all. -/
def IsSecondBehind
    (earlier names : List Text)
    (position : Nat)
    (name : Text) :
    Prop :=
  names[position]? = some name ∧
    earlier.count name + (names.take position).count name = 1

theorem secondOccurrences_cons_of_count
    {earlier : List Text}
    {name : Text}
    (once : earlier.count name = 1)
    (rest : List Text) :
    secondOccurrences earlier (name :: rest) =
      name :: secondOccurrences (name :: earlier) rest := by
  simp [secondOccurrences, once]

theorem secondOccurrences_cons_of_ne
    {earlier : List Text}
    {name : Text}
    (other : earlier.count name ≠ 1)
    (rest : List Text) :
    secondOccurrences earlier (name :: rest) =
      secondOccurrences (name :: earlier) rest := by
  simp [secondOccurrences, other]

theorem mem_secondOccurrences_iff
    {earlier names : List Text}
    {name : Text} :
    name ∈ secondOccurrences earlier names ↔
      earlier.count name ≤ 1 ∧
        2 ≤ earlier.count name + names.count name := by
  induction names generalizing earlier with
  | nil =>
      rw [secondOccurrences, List.count_nil]
      constructor
      · intro member
        cases member
      · omega
  | cons first rest ih =>
      by_cases same : first = name
      · subst same
        by_cases once : earlier.count first = 1
        · rw [secondOccurrences_cons_of_count once, List.count_cons_self]
          simp only [List.mem_cons_self, true_iff]
          omega
        · rw [secondOccurrences_cons_of_ne once, ih]
          simp only [List.count_cons_self]
          omega
      · have counted (names : List Text) :
            (first :: names).count name = names.count name :=
          List.count_cons_of_ne same
        by_cases once : earlier.count first = 1
        · rw [secondOccurrences_cons_of_count once, List.mem_cons, ih,
            counted, counted]
          simp [Ne.symm same]
        · rw [secondOccurrences_cons_of_ne once, ih, counted, counted]

theorem nodup_secondOccurrences
    (earlier names : List Text) :
    (secondOccurrences earlier names).Nodup := by
  induction names generalizing earlier with
  | nil => simp [secondOccurrences]
  | cons first rest ih =>
      by_cases once : earlier.count first = 1
      · rw [secondOccurrences_cons_of_count once, List.nodup_cons,
          mem_secondOccurrences_iff]
        refine ⟨?_, ih (first :: earlier)⟩
        rintro ⟨few, -⟩
        rw [List.count_cons_self] at few
        omega
      · rw [secondOccurrences_cons_of_ne once]
        exact ih (first :: earlier)

/-- The names that occur twice stand in the order of their second
occurrences. -/
theorem exists_positions_secondOccurrences
    (earlier names : List Text) :
    ∃ positions : List Nat,
      positions.Pairwise (· < ·) ∧
        List.Forall₂ (IsSecondBehind earlier names) positions
          (secondOccurrences earlier names) := by
  induction names generalizing earlier with
  | nil => exact ⟨[], .nil, .nil⟩
  | cons first rest ih =>
      rcases ih (first :: earlier) with ⟨positions, increasing, seconds⟩
      have moved :
          List.Forall₂ (IsSecondBehind earlier (first :: rest))
            (positions.map Nat.succ)
            (secondOccurrences (first :: earlier) rest) := by
        rw [List.forall₂_map_left_iff]
        refine seconds.imp fun position name second => ?_
        rcases second with ⟨stands, once⟩
        refine ⟨stands, ?_⟩
        rw [List.take_succ_cons, List.count_cons]
        rw [List.count_cons] at once
        omega
      have apart : (positions.map Nat.succ).Pairwise (· < ·) :=
        increasing.map Nat.succ fun _ _ => Nat.succ_lt_succ
      by_cases once : earlier.count first = 1
      · rw [secondOccurrences_cons_of_count once]
        refine ⟨0 :: positions.map Nat.succ, ?_, .cons ⟨rfl, ?_⟩ moved⟩
        · refine List.pairwise_cons.mpr ⟨fun position member => ?_, apart⟩
          rcases List.mem_map.mp member with ⟨before, -, rfl⟩
          exact Nat.succ_pos before
        · simpa using once
      · rw [secondOccurrences_cons_of_ne once]
        exact ⟨_, apart, moved⟩

theorem count_cons_le_one_iff
    (first name : Text)
    (earlier : List Text) :
    (first :: earlier).count name ≤ 1 ↔
      earlier.count name ≤ 1 ∧ (earlier.count first = 1 → name ≠ first) := by
  by_cases same : name = first
  · subst same
    rw [List.count_cons_self]
    simp only [ne_eq, not_true_eq_false, imp_false]
    omega
  · rw [List.count_cons_of_ne (Ne.symm same)]
    simp [same]

/-- Dropping repetitions leaves each repeated name where it is met again for
the first time. -/
theorem eraseDups_repeats
    (earlier names : List Text) :
    ((repeats earlier names).filter
        fun name => earlier.count name ≤ 1).eraseDups =
      secondOccurrences earlier names := by
  induction names generalizing earlier with
  | nil => rfl
  | cons first rest ih =>
      by_cases once : earlier.count first = 1
      · have seen : first ∈ earlier := List.count_pos_iff.mp (by omega)
        have shape :
            repeats earlier (first :: rest) =
              first :: repeats (first :: earlier) rest := by
          simp [repeats, seen]
        rw [secondOccurrences_cons_of_count once, ← ih, shape,
          List.filter_cons_of_pos (by simp [once]), List.eraseDups_cons,
          List.filter_filter]
        congr 2
        refine List.filter_congr fun name _ => ?_
        rw [Bool.eq_iff_iff]
        simp [count_cons_le_one_iff, once, and_comm]
      · -- A name that is new, or met for the third time, is not reported here.
        have shape :
            (repeats earlier (first :: rest)).filter
                (fun name => earlier.count name ≤ 1) =
              (repeats (first :: earlier) rest).filter
                (fun name => earlier.count name ≤ 1) := by
          by_cases seen : first ∈ earlier
          · have counted := List.count_pos_iff.mpr seen
            have many : ¬earlier.count first ≤ 1 := by omega
            simp [repeats, seen, many]
          · simp [repeats, seen]
        rw [secondOccurrences_cons_of_ne once, ← ih, shape]
        congr 1
        refine List.filter_congr fun name _ => ?_
        rw [Bool.eq_iff_iff]
        simp [count_cons_le_one_iff, once]

end Document

/-! ## The fates of first regions -/

namespace MarkedRegion

theorem nodup_map_name_firsts
    (earlier : List Text)
    (regions : List MarkedRegion) :
    ((firsts earlier regions).map MarkedRegion.name).Nodup := by
  induction regions generalizing earlier with
  | nil => simp
  | cons region rest ih =>
      by_cases seen : region.name ∈ earlier
      · rw [firsts_cons_of_mem seen]
        exact ih (region.name :: earlier)
      · rw [firsts_cons_of_not_mem seen, List.map_cons, List.nodup_cons]
        refine ⟨?_, ih (region.name :: earlier)⟩
        intro again
        rcases List.mem_map.mp again with ⟨other, member, sameName⟩
        apply (mem_firsts_iff.mp member).1
        simp [sameName]

end MarkedRegion

namespace Fate

variable {registry : Registry}

theorem of_nil_eq_foreign_iff
    {region : MarkedRegion} :
    of registry [] region = foreign ↔ registry.get? region.name = none := by
  rcases of_cases registry [] region with
    ⟨absurdity, -⟩ | ⟨-, owned, fate⟩ |
      ⟨canonical, -, owned, ⟨-, fate⟩ | ⟨-, fate⟩⟩
  · cases absurdity
  · simp [fate, owned]
  · simp [fate, owned]
  · simp [fate, owned]

theorem of_nil_eq_current_iff
    {region : MarkedRegion} :
    of registry [] region = current ↔
      ∃ canonical,
        registry.get? region.name = some canonical ∧
          region.isDriftedFrom canonical = false := by
  rcases of_cases registry [] region with
    ⟨absurdity, -⟩ | ⟨-, owned, fate⟩ |
      ⟨canonical, -, owned, ⟨drift, fate⟩ | ⟨drift, fate⟩⟩
  · cases absurdity
  · simp [fate, owned]
  · simp [fate, owned, drift]
  · simp [fate, owned, drift]

theorem of_nil_ne_repeated (region : MarkedRegion) :
    of registry [] region ≠ repeated := by
  rcases of_cases registry [] region with
    ⟨absurdity, -⟩ | ⟨-, -, fate⟩ | ⟨_, -, -, ⟨-, fate⟩ | ⟨-, fate⟩⟩
  · cases absurdity
  · simp [fate]
  · simp [fate]
  · simp [fate]

theorem beq_eq_false_of_isDrifted
    {fate other : Fate}
    (drifted : fate.isDrifted = true)
    (kept : other.isDrifted = false) :
    (fate == other) = false := by
  rw [beq_eq_false_iff_ne]
  rintro rfl
  rw [kept] at drifted
  cases drifted

/-- The regions that a merge finds to be repeated. -/
theorem namesWith_repeated_assign
    (earlier : List Text)
    (tail : List (MarkedRegion × Text)) :
    UpdateReport.namesWith (fun fate => fate == repeated)
        (assign registry earlier tail) =
      Document.repeats earlier
        ((tail.map Prod.fst).map MarkedRegion.name) := by
  induction tail generalizing earlier with
  | nil => rfl
  | cons entry rest ih =>
      rcases entry with ⟨region, text⟩
      rw [assign, UpdateReport.namesWith_cons, ih, List.map_cons,
        List.map_cons, Document.repeats]
      by_cases seen : region.name ∈ earlier
      · simp [of, seen]
      · rw [of_eq_of_nil seen]
        simp [of_nil_ne_repeated, seen]

end Fate

namespace Document

variable {document : Document} {registry : Registry}

theorem nodup_firstNames (selected : Fate → Bool) :
    (document.firstNames registry selected).Nodup :=
  (MarkedRegion.nodup_map_name_firsts [] document.marked).sublist
    (List.filter_sublist.map MarkedRegion.name)

/-- Names with different fates are different. -/
theorem disjoint_firstNames
    {selected other : Fate → Bool}
    (apart : ∀ fate, selected fate = true → other fate = false) :
    List.Disjoint (document.firstNames registry selected)
      (document.firstNames registry other) := by
  intro name member otherMember
  rcases mem_firstNames_iff.mp member with ⟨region, first, chosen⟩
  rcases mem_firstNames_iff.mp otherMember with
    ⟨same, otherFirst, otherChosen⟩
  rw [← get?_eq_some_iff] at first otherFirst
  obtain rfl := Option.some.inj (first.symm.trans otherFirst)
  rw [apart _ chosen] at otherChosen
  cases otherChosen

/-- Regions that are looked at alone have one of three fates. -/
theorem perm_filter_fates (regions : List MarkedRegion) :
    (regions.filter (fun region => (Fate.of registry [] region).isDrifted) ++
        (regions.filter (fun region => Fate.of registry [] region == .foreign) ++
          regions.filter
            (fun region => Fate.of registry [] region == .current))).Perm
      regions := by
  induction regions with
  | nil => exact .nil
  | cons region rest ih =>
      cases fate : Fate.of registry [] region with
      | repeated => exact absurd fate (Fate.of_nil_ne_repeated region)
      | drifted canonical =>
          simpa [List.filter_cons, fate, Fate.isDrifted] using ih
      | foreign =>
          simp only [List.filter_cons, fate, Fate.isDrifted]
          exact List.perm_middle.trans (ih.cons region)
      | current =>
          simp only [List.filter_cons, fate, Fate.isDrifted]
          rw [← List.append_assoc] at ih ⊢
          exact List.perm_middle.trans (ih.cons region)

/-- Every name has a first region, and its fate is one of three. -/
theorem perm_firstNames (document : Document) (registry : Registry) :
    (document.firstNames registry Fate.isDrifted ++
        (document.firstNames registry (fun fate => fate == .foreign) ++
          document.firstNames registry (fun fate => fate == .current))).Perm
      document.markedNames.eraseDups := by
  rw [← map_name_firsts_marked, firstNames, firstNames, firstNames,
    ← List.map_append, ← List.map_append]
  exact (perm_filter_fates _).map MarkedRegion.name

/-! ## The report -/

/-- Whether a name stands at a position of some names for the second time. -/
def IsSecondAt
    (names : List Text)
    (position : Nat)
    (name : Text) :
    Prop :=
  names[position]? = some name ∧ (names.take position).count name = 1

/-- Whether the registry owns a name and the first region of the name says
what the section says. -/
def IsCurrent
    (document : Document)
    (registry : Registry)
    (name : Text) :
    Prop :=
  ∃ region canonical,
    document.HasFirst name region ∧ registry.get? name = some canonical ∧
      region.isDriftedFrom canonical = false

/-- A report that accounts for every name of a document once. -/
structure AccountsFor
    (document : Document)
    (registry : Registry)
    (merged : Document)
    (report : UpdateReport) :
    Prop where
  updated_nodup : report.updated.Nodup
  preserved_nodup : report.preserved.Nodup
  apart : List.Disjoint report.updated report.preserved
  /-- Names are reported in the order of their first regions. -/
  updated_order : report.updated.Sublist document.markedNames.eraseDups
  preserved_order : report.preserved.Sublist document.markedNames.eraseDups
  preserved_iff :
    ∀ name,
      name ∈ report.preserved ↔
        name ∈ document.markedNames ∧ name ∉ registry.names
  current_iff :
    ∀ name ∈ document.markedNames,
      name ∉ report.updated ∧ name ∉ report.preserved ↔
        document.IsCurrent registry name
  duplicates_before : report.duplicates = document.duplicates
  duplicates_after : report.duplicates = merged.duplicates
  duplicates_nodup : report.duplicates.Nodup
  duplicates_iff :
    ∀ name, name ∈ report.duplicates ↔ 2 ≤ document.markedNames.count name
  duplicates_order :
    ∃ positions : List Nat,
      positions.Pairwise (· < ·) ∧
        List.Forall₂ (IsSecondAt document.markedNames) positions
          report.duplicates
  balance :
    ∃ current : List Text,
      current.Nodup ∧
        (∀ name, name ∈ current ↔ document.IsCurrent registry name) ∧
        document.markedNames.eraseDups.length =
          report.updated.length + report.preserved.length + current.length

theorem preserved_merge (document : Document) (registry : Registry) :
    (document.merge registry).2.preserved =
      document.firstNames registry (fun fate => fate == .foreign) := by
  change UpdateReport.namesWith (fun fate => fate == .foreign)
    (Fate.assign registry [] document.tail) = _
  exact Fate.namesWith_assign rfl [] document.tail

theorem duplicates_merge (document : Document) (registry : Registry) :
    (document.merge registry).2.duplicates = document.duplicates := by
  change (UpdateReport.namesWith (fun fate => fate == .repeated)
    (Fate.assign registry [] document.tail)).eraseDups = _
  rw [Fate.namesWith_repeated_assign, duplicates, ← eraseDups_repeats]
  exact congrArg List.eraseDups (List.filter_eq_self.mpr (by simp)).symm

theorem markedNames_merge (document : Document) (registry : Registry) :
    (document.merge registry).1.markedNames = document.markedNames := by
  rw [markedNames, markedNames, merge_fst, marked, marked, List.map_map,
    List.map_map]
  exact map_mergedTail (fun fate region text => fate.apply_name _ region)
    [] document.tail

theorem mem_firstNames_current_iff
    {name : Text} :
    name ∈ document.firstNames registry (fun fate => fate == .current) ↔
      document.IsCurrent registry name := by
  rw [mem_firstNames_iff]
  refine exists_congr fun region => ?_
  rw [beq_iff_eq, Fate.of_nil_eq_current_iff]
  constructor
  · rintro ⟨⟨before, behind, whole, rfl, others⟩, canonical, owned, same⟩
    exact ⟨canonical, ⟨before, behind, whole, rfl, others⟩, owned, same⟩
  · rintro ⟨canonical, ⟨before, behind, whole, rfl, others⟩, owned, same⟩
    exact ⟨⟨before, behind, whole, rfl, others⟩, canonical, owned, same⟩

theorem mem_firstNames_foreign_iff
    {name : Text} :
    name ∈ document.firstNames registry (fun fate => fate == .foreign) ↔
      name ∈ document.markedNames ∧ name ∉ registry.names := by
  rw [mem_firstNames_iff]
  constructor
  · rintro ⟨region, ⟨before, behind, whole, rfl, -⟩, foreign⟩
    rw [beq_iff_eq, Fate.of_nil_eq_foreign_iff,
      Registry.get?_eq_none_iff] at foreign
    refine ⟨?_, foreign⟩
    rw [markedNames, whole]
    simp
  · rintro ⟨member, foreign⟩
    rw [← List.mem_eraseDups, ← map_name_firsts_marked] at member
    rcases List.mem_map.mp member with ⟨region, first, rfl⟩
    refine ⟨region, ?_, ?_⟩
    · exact get?_eq_some_iff.mp (MarkedRegion.mem_firsts_iff.mp first).2
    · rw [beq_iff_eq, Fate.of_nil_eq_foreign_iff, Registry.get?_eq_none_iff]
      exact foreign

/-- The report of a merge accounts for every name once. -/
theorem accountsFor_merge
    (document : Document)
    (registry : Registry) :
    document.AccountsFor registry (document.merge registry).1
      (document.merge registry).2 := by
  have all := document.perm_firstNames registry
  have updated := updated_merge document registry
  have preserved := preserved_merge document registry
  have duplicates := duplicates_merge document registry
  exact
    { updated_nodup := updated ▸ nodup_firstNames _
      preserved_nodup := preserved ▸ nodup_firstNames _
      apart := by
        rw [updated, preserved]
        exact disjoint_firstNames fun _ drifted =>
          Fate.beq_eq_false_of_isDrifted drifted rfl
      updated_order := updated ▸ document.firstNames_sublist _
      preserved_order := preserved ▸ document.firstNames_sublist _
      preserved_iff := fun name => preserved ▸ mem_firstNames_foreign_iff
      current_iff := by
        intro name member
        rw [← mem_firstNames_current_iff, updated, preserved]
        constructor
        · rintro ⟨notUpdated, notPreserved⟩
          have counted := all.mem_iff.mpr (List.mem_eraseDups.mpr member)
          rcases List.mem_append.mp counted with absurdity | others
          · exact absurd absurdity notUpdated
          · exact (List.mem_append.mp others).resolve_left notPreserved
        · intro current
          refine ⟨fun found => ?_, fun found => ?_⟩
          · exact disjoint_firstNames
              (fun _ drifted => Fate.beq_eq_false_of_isDrifted drifted rfl)
              found current
          · refine disjoint_firstNames (fun fate foreign => ?_) found current
            rw [beq_iff_eq.mp foreign]
            rfl
      duplicates_before := duplicates
      duplicates_after := by
        rw [duplicates, Document.duplicates, Document.duplicates]
        exact congrArg (secondOccurrences [])
          (markedNames_merge document registry).symm
      duplicates_nodup := duplicates ▸ nodup_secondOccurrences [] _
      duplicates_iff := by
        intro name
        rw [duplicates, Document.duplicates, mem_secondOccurrences_iff]
        simp [markedNames]
      duplicates_order := by
        rw [duplicates]
        rcases exists_positions_secondOccurrences [] document.markedNames with
          ⟨positions, increasing, seconds⟩
        refine ⟨positions, increasing, seconds.imp ?_⟩
        rintro position name ⟨stands, once⟩
        exact ⟨stands, by simpa using once⟩
      balance := by
        refine ⟨_, nodup_firstNames _, fun name => mem_firstNames_current_iff,
          ?_⟩
        rw [updated, preserved, ← all.length_eq, List.length_append,
          List.length_append, Nat.add_assoc] }

end Document

end RegionSync
