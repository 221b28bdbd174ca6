import Mathlib.Data.List.Forall2
import RegionSync.Proofs.Document.WellFormed
import RegionSync.Proofs.Merge.Forecast

/-!
# A merge works in place

A merge goes over the regions of a document with the names it has met, and
leaves every region where it stands.  `mergedAfter` says what becomes of one
region, free or marked; which names stand in front of it is all that it takes
from the others.

`MergesInPlace` is the frame of a merge, for the regions by their position and
for the text.  A region changes only if it is the first of its name, the
registry owns the name and the region has drifted, and then its opening line
and its body are all that is written.  A text consists of pieces, one for each
part of each region; the text of the merged document has the same pieces in
the same order, with new opening lines and new bodies for the regions that the
report calls updated.
-/

namespace RegionSync

/-! ## Pieces of a text -/

/-- What a piece of a document's text is. -/
inductive PieceRole where
  | free
  | opening
  | leadingPad
  | body
  | trailingPad
  | closing
  deriving DecidableEq, Repr

/-- A piece of a document's text, with the position of its region. -/
structure Piece where
  position : Nat
  role : PieceRole
  text : Text
  deriving DecidableEq, Repr

/-- Whether a piece belongs to what a section is written over. -/
def PieceRole.IsWritten (role : PieceRole) : Prop :=
  role = opening ∨ role = body

namespace Region

/-- The pieces of a region at a position. -/
def pieces (position : Nat) : Region → List Piece
  | free _ text => [⟨position, .free, text⟩]
  | marked region =>
      [⟨position, .opening, region.openingLine⟩,
        ⟨position, .leadingPad, region.leadingPad.getD []⟩,
        ⟨position, .body, region.rawBody⟩,
        ⟨position, .trailingPad, region.trailingPad.getD []⟩,
        ⟨position, .closing, region.closingLine⟩]

theorem flatMap_text_pieces
    (position : Nat)
    (region : Region) :
    (region.pieces position).flatMap Piece.text = region.text := by
  cases region with
  | free index text => simp [pieces, Region.text]
  | marked region =>
      simp [pieces, Region.text, MarkedRegion.render, List.append_assoc]

end Region

namespace Document

/-- The pieces of a document's text, in order. -/
def pieces (document : Document) : List Piece :=
  document.regions.zipIdx.flatMap fun (region, position) =>
    region.pieces position

/-- The text of a document is the text of its pieces. -/
theorem flatMap_text_pieces (document : Document) :
    document.pieces.flatMap Piece.text = document.render := by
  rw [← textOf_regions, Region.textOf, pieces, List.flatMap_assoc]
  simp only [Region.flatMap_text_pieces]
  rw [← List.flatMap_map, List.zipIdx_map_fst]

end Document

/-! ## What becomes of one region -/

namespace Region

/-- A region, if it is a marked one. -/
def marked? : Region → Option MarkedRegion
  | free _ _ => none
  | marked region => some region

theorem marked?_eq_some_iff
    {region : Region}
    {found : MarkedRegion} :
    region.marked? = some found ↔ region = marked found := by
  cases region <;> simp [marked?]

/-- The name of a marked region. -/
def name? (region : Region) : Option Text :=
  region.marked?.map MarkedRegion.name

/-- What a merge makes of a region, where `earlier` are the names of the
marked regions in front. -/
def mergedAfter
    (registry : Registry)
    (ending : LineEnding)
    (earlier : List Text) :
    Region → Region
  | free index text => free index text
  | marked region =>
      marked ((Fate.of registry earlier region).apply ending region)

/-- Of the names in front, only membership counts. -/
theorem mergedAfter_congr
    {registry : Registry}
    {ending : LineEnding}
    {earlier other : List Text}
    (same : ∀ name, name ∈ earlier ↔ name ∈ other)
    (region : Region) :
    region.mergedAfter registry ending earlier =
      region.mergedAfter registry ending other := by
  cases region with
  | free index text => rfl
  | marked region =>
      have contained :
          earlier.contains region.name = other.contains region.name := by
        rw [Bool.eq_iff_iff, List.contains_iff_mem, List.contains_iff_mem]
        exact same region.name
      simp only [mergedAfter, Fate.of, contained]

end Region

namespace Document

variable {registry : Registry} {ending : LineEnding}

theorem getElem?_regionsFrom_mergedTail
    (index : Nat)
    (earlier : List Text)
    (tail : List (MarkedRegion × Text))
    (position : Nat) :
    (regionsFrom index (mergedTail registry ending earlier tail))[position]? =
      (regionsFrom index tail)[position]?.map
        (Region.mergedAfter registry ending
          (((regionsFrom index tail).take position).filterMap
            Region.name? ++ earlier)) := by
  induction tail generalizing index earlier position with
  | nil => simp [regionsFrom]
  | cons entry rest ih =>
      rcases entry with ⟨region, text⟩
      rw [mergedTail_cons, regionsFrom, regionsFrom]
      rcases position with _ | _ | position
      · rfl
      · rfl
      · -- The name of this region now stands in front of the others.
        have same (name : Text) :
            name ∈ ((regionsFrom (index + 1) rest).take position).filterMap
                  Region.name? ++ region.name :: earlier ↔
              name ∈ ((.marked region :: .free index text ::
                    regionsFrom (index + 1) rest).take
                      (position + 2)).filterMap Region.name? ++ earlier := by
          simp [Region.name?, Region.marked?, or_left_comm]
        rw [List.getElem?_cons_succ, List.getElem?_cons_succ,
          List.getElem?_cons_succ, List.getElem?_cons_succ, ih]
        exact congrArg (Option.map · _)
          (funext (Region.mergedAfter_congr same))

/-- What stands at a position after a merge. -/
theorem getElem?_regions_merge
    (document : Document)
    (registry : Registry)
    (position : Nat) :
    (document.merge registry).1.regions[position]? =
      document.regions[position]?.map
        (Region.mergedAfter registry document.lineEnding
          ((document.regions.take position).filterMap Region.name?)) := by
  rw [merge_fst, regions, regions]
  cases position with
  | zero => rfl
  | succ position =>
      rw [List.getElem?_cons_succ, List.getElem?_cons_succ,
        getElem?_regionsFrom_mergedTail, List.append_nil]
      rfl

theorem filterMap_marked?_regions (document : Document) :
    document.regions.filterMap Region.marked? = document.marked := by
  have behind (index : Nat) (tail : List (MarkedRegion × Text)) :
      (regionsFrom index tail).filterMap Region.marked? =
        tail.map Prod.fst := by
    induction tail generalizing index with
    | nil => rfl
    | cons entry rest ih =>
        rcases entry with ⟨region, text⟩
        exact congrArg (List.cons region) (ih (index + 1))
  exact behind 1 document.tail

theorem length_regions_merge
    (document : Document)
    (registry : Registry) :
    (document.merge registry).1.regions.length = document.regions.length := by
  have stands := document.getElem?_regions_merge registry
  apply Nat.le_antisymm
  · apply List.getElem?_eq_none_iff.mp
    rw [stands, List.getElem?_eq_none (Nat.le_refl _), Option.map_none]
  · apply List.getElem?_eq_none_iff.mp
    rw [← Option.map_eq_none_iff, ← stands,
      List.getElem?_eq_none (Nat.le_refl _)]

/-! ## The frame -/

/-- Whether a marked region stands at a position, and none of its name in
front of it. -/
def IsFirstAt
    (document : Document)
    (position : Nat)
    (region : MarkedRegion) :
    Prop :=
  document.regions[position]? = some (.marked region) ∧
    ∀ before other,
      before < position →
        document.regions[before]? = some (.marked other) →
          other.name ≠ region.name

/-- Whether the region at a position is the first of its name and has drifted
from the section that the registry has for it. -/
def HasDriftAt
    (document : Document)
    (registry : Registry)
    (position : Nat)
    (region : MarkedRegion)
    (canonical : Section) :
    Prop :=
  document.IsFirstAt position region ∧
    registry.get? region.name = some canonical ∧
      region.isDriftedFrom canonical = true

/-- A region with the version and the body of a section written into it: a
new opening line and a new body, and nothing else. -/
structure IsRewritten
    (ending : LineEnding)
    (canonical : Section)
    (before after : MarkedRegion) :
    Prop where
  name : after.name = before.name
  version : after.version = some canonical.version
  openingLine :
    after.openingLine =
      "<!-- BEGIN: ".toList ++ before.name ++ " v".toList
        ++ canonical.version ++ " -->".toList ++ ending.text
  leadingPad : after.leadingPad = before.leadingPad
  rawBody :
    after.rawBody =
      (canonical.body.lines.map fun line => line ++ ending.text).flatten
  trailingPad : after.trailingPad = before.trailingPad
  closingLine : after.closingLine = before.closingLine

/-- What becomes of a piece of the text: it stays, or it is the opening line
or the body of a first region that the report calls updated. -/
structure Piece.Becomes
    (document : Document)
    (report : UpdateReport)
    (before after : Piece) :
    Prop where
  position : after.position = before.position
  role : after.role = before.role
  text :
    after.text = before.text ∨
      before.role.IsWritten ∧
        ∃ region,
          document.IsFirstAt before.position region ∧
            region.name ∈ report.updated

/-- The frame of a merge. -/
structure MergesInPlace
    (document : Document)
    (registry : Registry)
    (merged : Document)
    (report : UpdateReport) :
    Prop where
  lineEnding : merged.lineEnding = document.lineEnding
  length : merged.regions.length = document.regions.length
  free :
    ∀ (position index : Nat) (text : Text),
      document.regions[position]? = some (.free index text) →
        merged.regions[position]? = some (.free index text)
  written :
    ∀ (position : Nat) (region : MarkedRegion) (canonical : Section),
      document.HasDriftAt registry position region canonical →
        ∃ after,
          merged.regions[position]? = some (.marked after) ∧
            IsRewritten document.lineEnding canonical region after
  untouched :
    ∀ (position : Nat) (region : MarkedRegion),
      document.regions[position]? = some (.marked region) →
        (∀ canonical,
          ¬document.HasDriftAt registry position region canonical) →
          merged.regions[position]? = some (.marked region)
  updated_iff :
    ∀ name,
      name ∈ report.updated ↔
        ∃ position region canonical,
          document.HasDriftAt registry position region canonical ∧
            region.name = name
  /-- The two texts are the texts of their pieces. -/
  text_before : document.pieces.flatMap Piece.text = document.render
  text_after : merged.pieces.flatMap Piece.text = merged.render
  pieces :
    List.Forall₂ (Piece.Becomes document report) document.pieces
      merged.pieces

theorem isFirstAt_iff
    {document : Document}
    {position : Nat}
    {region : MarkedRegion} :
    document.IsFirstAt position region ↔
      document.regions[position]? = some (.marked region) ∧
        region.name ∉
          (document.regions.take position).filterMap Region.name? := by
  refine and_congr_right fun found => ?_
  have inside := (List.getElem?_eq_some_iff.mp found).1
  constructor
  · intro first member
    rcases List.mem_filterMap.mp member with ⟨other, taken, named⟩
    rcases List.mem_take_iff_getElem.mp taken with ⟨before, bound, rfl⟩
    have stands : before < document.regions.length := by omega
    cases shape : document.regions[before] with
    | free index text => simp [shape, Region.name?, Region.marked?] at named
    | marked marked =>
        have sameName : marked.name = region.name := by
          simpa [shape, Region.name?, Region.marked?] using named
        apply first before marked (by omega) ?_ sameName
        rw [List.getElem?_eq_getElem stands, shape]
  · intro fresh before other below stands sameName
    apply fresh
    apply List.mem_filterMap.mpr
    refine ⟨.marked other, ?_, by simp [Region.name?, Region.marked?, sameName]⟩
    rcases List.getElem?_eq_some_iff.mp stands with ⟨bound, value⟩
    exact List.mem_take_iff_getElem.mpr ⟨before, by omega, value⟩

theorem hasDriftAt_iff
    {document : Document}
    {position : Nat}
    {region : MarkedRegion}
    {canonical : Section} :
    document.HasDriftAt registry position region canonical ↔
      document.regions[position]? = some (.marked region) ∧
        Fate.of registry
            ((document.regions.take position).filterMap Region.name?)
            region = .drifted canonical := by
  rw [HasDriftAt, isFirstAt_iff, Fate.of_eq_drifted_iff, and_assoc]

/-- A look-up finds the region that is the first of its name. -/
theorem get?_eq_some_iff_isFirstAt
    {document : Document}
    {name : Text}
    {region : MarkedRegion} :
    document.get? name = some region ↔
      ∃ position, document.IsFirstAt position region ∧ region.name = name := by
  rw [get?, ← filterMap_marked?_regions, List.find?_filterMap,
    Option.bind_eq_some_iff]
  constructor
  · rintro ⟨found, first, shape⟩
    rcases List.find?_eq_some_iff_getElem.mp first with
      ⟨named, position, bound, rfl, others⟩
    rw [shape, Option.any_some, beq_iff_eq] at named
    refine ⟨position, ⟨?_, ?_⟩, named⟩
    · rw [List.getElem?_eq_getElem bound, Region.marked?_eq_some_iff.mp shape]
    · intro before other below stands sameName
      rcases List.getElem?_eq_some_iff.mp stands with ⟨inside, value⟩
      have different := others before below
      simp [value, Region.marked?, sameName, named] at different
  · rintro ⟨position, ⟨stands, first⟩, rfl⟩
    rcases List.getElem?_eq_some_iff.mp stands with ⟨bound, value⟩
    refine ⟨.marked region, ?_, rfl⟩
    apply List.find?_eq_some_iff_getElem.mpr
    refine ⟨by simp [Region.marked?], position, bound, value, ?_⟩
    intro before below
    have inside : before < document.regions.length := by omega
    cases shape : document.regions[before] with
    | free index text => rfl
    | marked other =>
        have different :=
          first before other below
            (by rw [List.getElem?_eq_getElem inside, shape])
        simp [Region.marked?, different]

/-- The pieces of two documents correspond if those of their regions do. -/
theorem forall₂_pieces
    {relation : Piece → Piece → Prop}
    {document other : Document}
    (length : other.regions.length = document.regions.length)
    (related :
      ∀ (position : Nat) (before after : Region),
        document.regions[position]? = some before →
          other.regions[position]? = some after →
            List.Forall₂ relation (before.pieces position)
              (after.pieces position)) :
    List.Forall₂ relation document.pieces other.pieces := by
  have regions :
      List.Forall₂
        (fun before after : Region × Nat =>
          List.Forall₂ relation (before.1.pieces before.2)
            (after.1.pieces after.2))
        document.regions.zipIdx other.regions.zipIdx := by
    rw [List.forall₂_iff_get]
    refine ⟨by simp [length], ?_⟩
    intro position bound otherBound
    rw [List.length_zipIdx] at bound otherBound
    simpa using
      related position _ _ (List.getElem?_eq_getElem bound)
        (List.getElem?_eq_getElem otherBound)
  exact List.rel_flatMap regions fun before after same => same

/-! ## The frame of a merge -/

theorem regions_merge_of_hasDriftAt
    {document : Document}
    {position : Nat}
    {region : MarkedRegion}
    {canonical : Section}
    (drift : document.HasDriftAt registry position region canonical) :
    (document.merge registry).1.regions[position]? =
      some (.marked (region.replaceWith canonical document.lineEnding)) := by
  rcases hasDriftAt_iff.mp drift with ⟨stands, fate⟩
  rw [getElem?_regions_merge, stands, Option.map_some, Region.mergedAfter,
    fate]
  rfl

theorem regions_merge_of_not_hasDriftAt
    {document : Document}
    {position : Nat}
    {region : MarkedRegion}
    (stands : document.regions[position]? = some (.marked region))
    (spared :
      ∀ canonical, ¬document.HasDriftAt registry position region canonical) :
    (document.merge registry).1.regions[position]? =
      some (.marked region) := by
  rw [getElem?_regions_merge, stands, Option.map_some, Region.mergedAfter,
    Fate.apply_of_not_isDrifted]
  cases fate : Fate.of registry
      ((document.regions.take position).filterMap Region.name?) region with
  | drifted canonical =>
      exact absurd (hasDriftAt_iff.mpr ⟨stands, fate⟩) (spared canonical)
  | repeated => rfl
  | foreign => rfl
  | current => rfl

theorem regions_merge_of_free
    {document : Document}
    {position index : Nat}
    {text : Text}
    (stands : document.regions[position]? = some (.free index text)) :
    (document.merge registry).1.regions[position]? =
      some (.free index text) := by
  rw [getElem?_regions_merge, stands]
  rfl

theorem isRewritten_replaceWith
    (ending : LineEnding)
    (canonical : Section)
    (region : MarkedRegion) :
    IsRewritten ending canonical region
      (region.replaceWith canonical ending) where
  name := rfl
  version := rfl
  openingLine := rfl
  leadingPad := rfl
  rawBody := ending.terminate_eq_flatten canonical.body.lines
  trailingPad := rfl
  closingLine := rfl

/-- The names that are updated are those of the regions that are written. -/
theorem mem_updated_iff_hasDriftAt
    {document : Document}
    {name : Text} :
    name ∈ (document.merge registry).2.updated ↔
      ∃ position region canonical,
        document.HasDriftAt registry position region canonical ∧
          region.name = name := by
  rw [mem_updated_iff]
  constructor
  · rintro ⟨canonical, region, owned, found, drift⟩
    rcases get?_eq_some_iff_isFirstAt.mp found with ⟨position, first, rfl⟩
    exact ⟨position, region, canonical, ⟨first, owned, drift⟩, rfl⟩
  · rintro ⟨position, region, canonical, ⟨first, owned, drift⟩, rfl⟩
    exact
      ⟨canonical, region, owned,
        get?_eq_some_iff_isFirstAt.mpr ⟨position, first, rfl⟩, drift⟩

namespace Piece.Becomes

variable {document : Document} {report : UpdateReport}

theorem refl (piece : Piece) : Piece.Becomes document report piece piece :=
  ⟨rfl, rfl, Or.inl rfl⟩

/-- The pieces of a region into which a section was written. -/
theorem forall₂_pieces_replaceWith
    {position : Nat}
    {region : MarkedRegion}
    (first : document.IsFirstAt position region)
    (updated : region.name ∈ report.updated)
    (canonical : Section)
    (ending : LineEnding) :
    List.Forall₂ (Piece.Becomes document report)
      (Region.pieces position (.marked region))
      (Region.pieces position
        (.marked (region.replaceWith canonical ending))) := by
  have opening (text : Text) :
      Piece.Becomes document report
        ⟨position, .opening, region.openingLine⟩
        ⟨position, .opening, text⟩ :=
    ⟨rfl, rfl, Or.inr ⟨Or.inl rfl, region, first, updated⟩⟩
  have body (text : Text) :
      Piece.Becomes document report
        ⟨position, .body, region.rawBody⟩ ⟨position, .body, text⟩ :=
    ⟨rfl, rfl, Or.inr ⟨Or.inr rfl, region, first, updated⟩⟩
  exact
    .cons (opening _) <| .cons (refl _) <| .cons (body _) <|
      .cons (refl _) <| .cons (refl _) .nil

end Piece.Becomes

theorem forall₂_pieces_merge
    (document : Document)
    (registry : Registry) :
    List.Forall₂ (Piece.Becomes document (document.merge registry).2)
      document.pieces (document.merge registry).1.pieces := by
  apply forall₂_pieces (length_regions_merge document registry)
  intro position before after stands stays
  have same (kept :
      (document.merge registry).1.regions[position]? = some before) :
      List.Forall₂ (Piece.Becomes document (document.merge registry).2)
        (before.pieces position) (after.pieces position) := by
    obtain rfl := Option.some.inj (kept.symm.trans stays)
    exact List.forall₂_same.mpr fun piece _ => .refl piece
  cases before with
  | free index text => exact same (regions_merge_of_free stands)
  | marked region =>
      by_cases drift :
          ∃ canonical,
            document.HasDriftAt registry position region canonical
      · rcases drift with ⟨canonical, drift⟩
        obtain rfl :=
          Option.some.inj
            ((regions_merge_of_hasDriftAt drift).symm.trans stays)
        apply Piece.Becomes.forall₂_pieces_replaceWith drift.1
        exact mem_updated_iff_hasDriftAt.mpr
          ⟨position, region, canonical, drift, rfl⟩
      · apply same
        apply regions_merge_of_not_hasDriftAt stands
        intro canonical drifted
        exact drift ⟨canonical, drifted⟩

/-- A merge leaves a document as it is but for the opening lines and the
bodies of the regions that it updates. -/
theorem mergesInPlace_merge
    (document : Document)
    (registry : Registry) :
    document.MergesInPlace registry (document.merge registry).1
      (document.merge registry).2 where
  lineEnding := rfl
  length := length_regions_merge document registry
  free := fun _ _ _ => regions_merge_of_free
  written := fun _ region canonical drift =>
    ⟨_, regions_merge_of_hasDriftAt drift,
      isRewritten_replaceWith document.lineEnding canonical region⟩
  untouched := fun _ _ => regions_merge_of_not_hasDriftAt
  updated_iff := fun _ => mem_updated_iff_hasDriftAt
  text_before := flatMap_text_pieces document
  text_after := flatMap_text_pieces _
  pieces := forall₂_pieces_merge document registry

end Document

end RegionSync
