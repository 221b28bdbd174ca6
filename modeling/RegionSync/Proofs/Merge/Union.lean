import RegionSync.Proofs.Merge.Forecast
import RegionSync.Proofs.Registry.Acceptance

/-!
# Merging the union of two registries

A merge asks a registry for the sections of names, and nothing else.  So the
order of the sections does not matter, and neither does it matter whether
sections come in one registry or in two that share no name.

`of_apply` is the reason for the second statement.  A region that one registry
has been written into belongs to no section of the other, so the second merge
finds every region with the fate that it has in the document as it was.
-/

namespace RegionSync

namespace Section

theorem AreValid.perm
    {sections others : List Section}
    (valid : AreValid sections)
    (reordered : sections.Perm others) :
    AreValid others where
  names given member := valid.names given (reordered.mem_iff.mpr member)
  versions given member := valid.versions given (reordered.mem_iff.mpr member)
  distinct := (reordered.map Section.name).nodup_iff.mp valid.distinct
  unmarked given member := valid.unmarked given (reordered.mem_iff.mpr member)

end Section

namespace Registry

/-! ## Registries as maps -/

theorem get?_perm
    {registry other : Registry}
    (distinct : registry.names.Nodup)
    (reordered : registry.sections.Perm other.sections)
    (name : Text) :
    registry.get? name = other.get? name := by
  have otherDistinct : other.names.Nodup :=
    (reordered.map Section.name).nodup_iff.mp distinct
  apply Option.ext
  intro canonical
  rw [get?_eq_some_iff distinct, get?_eq_some_iff otherDistinct,
    reordered.mem_iff]

/-- A registry with the sections of two others that share no name. -/
structure IsUnionOf (whole left right : Registry) : Prop where
  get?_eq :
    ∀ name, whole.get? name = (left.get? name).or (right.get? name)
  apart : ∀ name, left.get? name = none ∨ right.get? name = none

theorem IsUnionOf.symm
    {whole left right : Registry}
    (union : whole.IsUnionOf left right) :
    whole.IsUnionOf right left where
  get?_eq name := by
    rw [union.get?_eq]
    rcases union.apart name with unowned | unowned
    · simp [unowned]
    · simp [unowned]
  apart name := (union.apart name).symm

/-- Both parts of a list that is accepted are accepted, and its registry is
the union of theirs. -/
theorem exists_isUnionOf_of_append
    {first second : List Section}
    {whole : Registry}
    (accepted : ofSections (first ++ second) = .ok whole) :
    ∃ left right,
      ofSections first = .ok left ∧ ofSections second = .ok right ∧
        whole.IsUnionOf left right := by
  rcases ofSections_eq_ok_iff.mp accepted with ⟨valid, rfl⟩
  refine
    ⟨⟨first.map Section.normalize⟩, ⟨second.map Section.normalize⟩,
      ofSections_eq_ok_iff.mpr
        ⟨valid.sublist (List.sublist_append_left first second), rfl⟩,
      ofSections_eq_ok_iff.mpr
        ⟨valid.sublist (List.sublist_append_right first second), rfl⟩,
      ?_, ?_⟩
  · intro name
    simp only [get?, List.map_append, List.find?_append]
  · intro name
    have distinct := valid.distinct
    rw [List.map_append] at distinct
    rw [get?_eq_none_iff, get?_eq_none_iff, names_map_normalize,
      names_map_normalize, ← not_and_or]
    rintro ⟨inFirst, inSecond⟩
    exact (List.disjoint_of_nodup_append distinct) inFirst inSecond

end Registry

namespace Fate

variable {whole left right : Registry}

/-! ## One region -/

theorem of_congr
    {registry other : Registry}
    {region : MarkedRegion}
    (same : registry.get? region.name = other.get? region.name)
    (earlier : List Text) :
    of registry earlier region = of other earlier region := by
  rw [of, of, same]

/-- A region that belongs to no section is left alone. -/
theorem apply_of_unowned
    {registry : Registry}
    {region : MarkedRegion}
    (unowned : registry.get? region.name = none)
    (earlier : List Text)
    (ending : LineEnding)
    (target : MarkedRegion) :
    (of registry earlier region).apply ending target = target := by
  apply apply_of_not_isDrifted
  rcases of_cases registry earlier region with
    ⟨-, fate⟩ | ⟨-, -, fate⟩ | ⟨canonical, -, owned, -⟩
  · rw [fate]
    rfl
  · rw [fate]
    rfl
  · cases unowned.symm.trans owned

/-- A second registry finds a region as it was. -/
theorem of_apply
    (apart : ∀ name, left.get? name = none ∨ right.get? name = none)
    (earlier : List Text)
    (ending : LineEnding)
    (region : MarkedRegion) :
    of right earlier ((of left earlier region).apply ending region) =
      of right earlier region := by
  rcases apart region.name with unowned | unowned
  · rw [apply_of_unowned unowned]
  · simp [of, unowned]

theorem apply_apply
    (union : whole.IsUnionOf left right)
    (earlier : List Text)
    (ending : LineEnding)
    (region : MarkedRegion) :
    (of right earlier region).apply ending
        ((of left earlier region).apply ending region) =
      (of whole earlier region).apply ending region := by
  have owned := union.get?_eq region.name
  rcases union.apart region.name with unowned | unowned
  · rw [unowned, Option.none_or] at owned
    rw [apply_of_unowned unowned, of_congr owned]
  · rw [unowned, Option.or_none] at owned
    rw [apply_of_unowned unowned, of_congr owned]

end Fate

namespace Document

variable {whole left right : Registry} {ending : LineEnding}

/-! ## A whole document -/

theorem assign_congr
    {registry other : Registry}
    (same : ∀ name, registry.get? name = other.get? name)
    (earlier : List Text)
    (tail : List (MarkedRegion × Text)) :
    Fate.assign registry earlier tail = Fate.assign other earlier tail := by
  induction tail generalizing earlier with
  | nil => rfl
  | cons entry rest ih =>
      rcases entry with ⟨region, text⟩
      rw [Fate.assign, Fate.assign, Fate.of_congr (same region.name), ih]

/-- A merge depends on what a registry says of each name. -/
theorem merge_congr
    {registry other : Registry}
    (same : ∀ name, registry.get? name = other.get? name)
    (document : Document) :
    document.merge registry = document.merge other := by
  simp only [merge, fates, assign_congr same]

theorem mergedTail_mergedTail
    (union : whole.IsUnionOf left right)
    (earlier : List Text)
    (tail : List (MarkedRegion × Text)) :
    mergedTail right ending earlier (mergedTail left ending earlier tail) =
      mergedTail whole ending earlier tail := by
  induction tail generalizing earlier with
  | nil => rfl
  | cons entry rest ih =>
      rcases entry with ⟨region, text⟩
      rw [mergedTail_cons, mergedTail_cons, mergedTail_cons,
        Fate.apply_name, Fate.of_apply union.apart, Fate.apply_apply union, ih]

theorem namesWith_assign_mergedTail
    (apart : ∀ name, left.get? name = none ∨ right.get? name = none)
    (selected : Fate → Bool)
    (earlier : List Text)
    (tail : List (MarkedRegion × Text)) :
    UpdateReport.namesWith selected
        (Fate.assign right earlier (mergedTail left ending earlier tail)) =
      UpdateReport.namesWith selected (Fate.assign right earlier tail) := by
  induction tail generalizing earlier with
  | nil => rfl
  | cons entry rest ih =>
      rcases entry with ⟨region, text⟩
      rw [mergedTail_cons, Fate.assign, Fate.assign,
        UpdateReport.namesWith_cons, UpdateReport.namesWith_cons,
        Fate.apply_name, Fate.of_apply apart, ih]

theorem merge_merge_fst
    (union : whole.IsUnionOf left right)
    (document : Document) :
    ((document.merge left).1.merge right).1 = (document.merge whole).1 := by
  rw [merge_fst, merge_fst, merge_fst]
  exact congrArg (fun tail => { document with tail })
    (mergedTail_mergedTail union [] document.tail)

theorem merge_merge_snd
    (apart : ∀ name, left.get? name = none ∨ right.get? name = none)
    (document : Document) :
    ((document.merge left).1.merge right).2 = (document.merge right).2 := by
  have same (selected : Fate → Bool) :
      UpdateReport.namesWith selected
          ((document.merge left).1.fates right) =
        UpdateReport.namesWith selected (document.fates right) :=
    namesWith_assign_mergedTail apart selected [] document.tail
  change UpdateReport.ofFates ((document.merge left).1.fates right) =
    UpdateReport.ofFates (document.fates right)
  rw [UpdateReport.ofFates, UpdateReport.ofFates, same, same, same]

/-- Merging two registries one after the other, in either order, and merging
their union at once. -/
structure MergesApart
    (document : Document)
    (whole left right : Registry) :
    Prop where
  left_first :
    ((document.merge left).1.merge right).1 = (document.merge whole).1
  right_first :
    ((document.merge right).1.merge left).1 = (document.merge whole).1
  /-- The first of the two merges does not show in the report of the second. -/
  report_right :
    ((document.merge left).1.merge right).2 = (document.merge right).2
  report_left :
    ((document.merge right).1.merge left).2 = (document.merge left).2
  updated_iff :
    ∀ name,
      name ∈ (document.merge whole).2.updated ↔
        name ∈ (document.merge left).2.updated ∨
          name ∈ (document.merge right).2.updated
  updated_apart :
    List.Disjoint (document.merge left).2.updated
      (document.merge right).2.updated

theorem mergesApart_of_isUnionOf
    (union : whole.IsUnionOf left right)
    (document : Document) :
    document.MergesApart whole left right where
  left_first := merge_merge_fst union document
  right_first := merge_merge_fst union.symm document
  report_right := merge_merge_snd union.apart document
  report_left := merge_merge_snd union.symm.apart document
  updated_iff name := by
    have owned := union.get?_eq name
    simp only [mem_updated_iff]
    rcases union.apart name with unowned | unowned
    · rw [unowned, Option.none_or] at owned
      simp [owned, unowned]
    · rw [unowned, Option.or_none] at owned
      simp [owned, unowned]
  updated_apart := by
    intro name inLeft inRight
    rcases mem_updated_iff.mp inLeft with ⟨canonical, -, ownedLeft, -⟩
    rcases mem_updated_iff.mp inRight with ⟨other, -, ownedRight, -⟩
    rcases union.apart name with unowned | unowned
    · cases unowned.symm.trans ownedLeft
    · cases unowned.symm.trans ownedRight

/-- A merge depends on a registry only as a map from names to sections, and
merges of registries that share no name commute. -/
theorem merge_by_lookup
    (document : Document) :
    (∀ registry other : Registry,
      (∀ name, registry.get? name = other.get? name) →
        document.merge registry = document.merge other) ∧
    (∀ sections others registry,
      sections.Perm others →
        Registry.ofSections sections = .ok registry →
          ∃ reordered,
            Registry.ofSections others = .ok reordered ∧
              document.merge reordered = document.merge registry) ∧
    ∀ first second whole,
      Registry.ofSections (first ++ second) = .ok whole →
        ∃ left right,
          Registry.ofSections first = .ok left ∧
            Registry.ofSections second = .ok right ∧
            document.MergesApart whole left right := by
  refine ⟨fun registry other same => merge_congr same document, ?_, ?_⟩
  · intro sections others registry reordered accepted
    rcases Registry.ofSections_eq_ok_iff.mp accepted with ⟨valid, rfl⟩
    refine ⟨_, Registry.ofSections_eq_ok_iff.mpr ⟨valid.perm reordered, rfl⟩,
      merge_congr (fun name => ?_) document⟩
    refine Registry.get?_perm ?_ (reordered.symm.map Section.normalize) name
    rw [Registry.names_map_normalize]
    exact (valid.perm reordered).distinct
  · intro first second whole accepted
    rcases Registry.exists_isUnionOf_of_append accepted with
      ⟨left, right, acceptedFirst, acceptedSecond, union⟩
    exact ⟨left, right, acceptedFirst, acceptedSecond,
      mergesApart_of_isUnionOf union document⟩

/-- Two sections in one registry, in the other order, in two registries, and
in a registry where one hides a third. -/
theorem merge_by_lookup_pair :
    ∃ document whole reordered left right,
      parse
          ("<!-- BEGIN: b v1 -->\nold\n<!-- END: b -->\n"
            ++ "<!-- BEGIN: a v1 -->\nold\n<!-- END: a -->").toList =
          .ok document ∧
        Registry.ofSections
            ([⟨"a".toList, "2".toList, "one".toList⟩]
              ++ [⟨"b".toList, "1".toList, "two".toList⟩]) = .ok whole ∧
        Registry.ofSections
            [⟨"b".toList, "1".toList, "two".toList⟩,
              ⟨"a".toList, "2".toList, "one".toList⟩] = .ok reordered ∧
        document.merge reordered = document.merge whole ∧
        Registry.ofSections [⟨"a".toList, "2".toList, "one".toList⟩] =
            .ok left ∧
        Registry.ofSections [⟨"b".toList, "1".toList, "two".toList⟩] =
            .ok right ∧
        document.MergesApart whole left right ∧
        document.merge
            ⟨whole.sections ++ [⟨"a".toList, "3".toList, "three".toList⟩]⟩ =
          document.merge whole := by
  have accepted :
      Registry.ofSections
          ([⟨"a".toList, "2".toList, "one".toList⟩]
            ++ [⟨"b".toList, "1".toList, "two".toList⟩]) =
        .ok
          ⟨[⟨"a".toList, "2".toList, "one".toList⟩,
            ⟨"b".toList, "1".toList, "two".toList⟩]⟩ :=
    rfl
  have hidden (name : Text) :
      Registry.get?
          ⟨[⟨"a".toList, "2".toList, "one".toList⟩,
            ⟨"b".toList, "1".toList, "two".toList⟩]
              ++ [⟨"a".toList, "3".toList, "three".toList⟩]⟩ name =
        Registry.get?
          ⟨[⟨"a".toList, "2".toList, "one".toList⟩,
            ⟨"b".toList, "1".toList, "two".toList⟩]⟩ name := by
    rw [Registry.get?, Registry.get?, List.find?_append]
    by_cases first : "a".toList = name
    · simp [← first]
    · rw [Option.or_eq_left_of_none]
      exact List.find?_cons_of_neg (by simpa using first)
  rcases (merge_by_lookup _).2.1 _ _ _ (List.Perm.swap _ _ _) accepted with
    ⟨reordered, acceptedReordered, sameMerge⟩
  rcases (merge_by_lookup _).2.2 _ _ _ accepted with
    ⟨left, right, acceptedFirst, acceptedSecond, mergesApart⟩
  exact
    ⟨_, _, reordered, left, right, rfl, accepted, acceptedReordered,
      sameMerge, acceptedFirst, acceptedSecond, mergesApart,
      (merge_by_lookup _).1 _ _ hidden⟩

end Document

end RegionSync
