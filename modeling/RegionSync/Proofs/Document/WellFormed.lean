import RegionSync.Proofs.Document.Layout

/-!
# Well-formed documents

A document may also be seen as the list of its regions of both kinds, in
source order and numbered.  This module says of such a list when it is well
formed: the kinds alternate and the free texts are numbered, free texts are
plain, marked regions are canonical, and every part that something follows
ends at a line feed.

The main statement is that the well-formed lists are exactly those that
reading produces, each from its own text.  Parsed documents are therefore
canonical: no two of them have the same text.
-/

namespace RegionSync

/-! ## Lists of regions -/

namespace Region

/-- The text of a region of either kind. -/
def text : Region → Text
  | free _ text => text
  | marked region => region.render

/-- The text of some regions, one behind the other. -/
def textOf (regions : List Region) : Text :=
  regions.flatMap text

/-- Free and marked regions in turn, free ones at both ends and numbered from
an index on. -/
inductive Alternates : Nat → List Region → Prop where
  | last (index : Nat) (text : Text) :
      Alternates index [.free index text]
  | next
      (index : Nat)
      (text : Text)
      (region : MarkedRegion)
      {rest : List Region}
      (below : Alternates (index + 1) rest) :
      Alternates index (.free index text :: .marked region :: rest)

/-- Plain free texts and canonical regions that end their lines where they
meet. -/
structure PartsFit (regions : List Region) : Prop where
  free_plain : ∀ index text, .free index text ∈ regions → text.IsPlain
  /-- Free text in front of a marker ends its line. -/
  free_complete :
    ∀ index text region,
      [.free index text, .marked region] <:+: regions → text.IsComplete
  marked_canonical :
    ∀ region, .marked region ∈ regions → region.IsCanonical
  /-- Only at the end of the text a closing line may lack its line feed. -/
  closing_full :
    ∀ region after,
      .marked region :: after <:+ regions →
        region.closingLine.IsFullLine ∨ textOf after = []

/-- Regions that reading can produce, with the line ending they were read
with. -/
structure IsWellFormed
    (regions : List Region)
    (ending : LineEnding) :
    Prop where
  alternates : Alternates 0 regions
  fit : PartsFit regions
  ending_eq : ending = .detect (textOf regions)

@[simp]
theorem textOf_nil : textOf [] = [] :=
  rfl

@[simp]
theorem textOf_cons
    (region : Region)
    (rest : List Region) :
    textOf (region :: rest) = region.text ++ textOf rest := by
  simp [textOf]

theorem partsFit_free
    {index : Nat}
    {text : Text} :
    PartsFit [.free index text] ↔ text.IsPlain := by
  constructor
  · intro fit
    exact fit.free_plain index text (by simp)
  · intro plain
    exact
      { free_plain := by
          intro other found member
          obtain ⟨rfl, rfl⟩ : other = index ∧ found = text := by
            simpa using member
          exact plain
        free_complete := by
          intro other found region within
          have short := within.length_le
          simp at short
        marked_canonical := by simp
        closing_full := by
          intro region after within
          have member := within.subset (List.mem_cons_self)
          simp at member }

/-- What the first two regions contribute, in front of other regions that
start with free text. -/
theorem partsFit_cons
    {index next : Nat}
    {text behind : Text}
    {region : MarkedRegion}
    {rest : List Region} :
    PartsFit
        (.free index text :: .marked region :: .free next behind :: rest) ↔
      text.IsPlain ∧ text.IsComplete ∧ region.IsCanonical ∧
        (region.closingLine.IsFullLine ∨
          textOf (.free next behind :: rest) = []) ∧
        PartsFit (.free next behind :: rest) := by
  constructor
  · intro fit
    have whole :
        .free next behind :: rest <:+
          .free index text :: .marked region :: .free next behind :: rest :=
      ⟨[.free index text, .marked region], rfl⟩
    refine ⟨fit.free_plain index text (by simp),
      fit.free_complete index text region ?_,
      fit.marked_canonical region (by simp),
      fit.closing_full region _ ?_, ?_⟩
    · exact ⟨[], .free next behind :: rest, rfl⟩
    · exact ⟨[.free index text], rfl⟩
    · exact
        { free_plain := fun other found member =>
            fit.free_plain other found (whole.subset member)
          free_complete := fun other found marked within =>
            fit.free_complete other found marked
              (within.trans whole.isInfix)
          marked_canonical := fun marked member =>
            fit.marked_canonical marked (whole.subset member)
          closing_full := fun marked after within =>
            fit.closing_full marked after (within.trans whole) }
  · rintro ⟨plain, complete, canonical, ended, fit⟩
    exact
      { free_plain := by
          intro other found member
          rcases List.mem_cons.mp member with same | below
          · cases same
            exact plain
          · exact fit.free_plain other found (by simpa using below)
        free_complete := by
          intro other found marked within
          rcases List.infix_cons_iff.mp within with first | below
          · obtain ⟨⟨rfl, rfl⟩, rfl⟩ :
                (other = index ∧ found = text) ∧ marked = region := by
              simpa [List.cons_prefix_cons] using first
            exact complete
          · rcases List.infix_cons_iff.mp below with second | further
            · simp [List.cons_prefix_cons] at second
            · exact fit.free_complete other found marked further
        marked_canonical := by
          intro marked member
          have cases :
              marked = region ∨
                .marked marked ∈ (.free next behind :: rest : List Region) := by
            simpa using member
          rcases cases with rfl | below
          · exact canonical
          · exact fit.marked_canonical marked below
        closing_full := by
          intro marked after within
          rcases List.suffix_cons_iff.mp within with absurdity | below
          · simp at absurdity
          · rcases List.suffix_cons_iff.mp below with same | further
            · obtain ⟨rfl, rfl⟩ :
                  marked = region ∧ after = .free next behind :: rest := by
                simpa using same
              exact ended
            · exact fit.closing_full marked after further }

end Region

namespace Document

/-! ## Documents as lists of regions -/

theorem textOf_regionsFrom
    (index : Nat)
    (lead : Text)
    (tail : List (MarkedRegion × Text)) :
    Region.textOf (.free index lead :: regionsFrom (index + 1) tail) =
      layoutText lead tail := by
  induction tail generalizing index lead with
  | nil => simp [regionsFrom, Region.text]
  | cons entry rest ih =>
      rcases entry with ⟨region, text⟩
      rw [layoutText_cons, ← ih (index + 1) text]
      simp [regionsFrom, Region.text]

/-- The text of a document is the text of all its regions. -/
theorem textOf_regions (document : Document) :
    Region.textOf document.regions = document.render :=
  textOf_regionsFrom 0 document.lead document.tail

theorem alternates_iff
    {index : Nat}
    {regions : List Region} :
    Region.Alternates index regions ↔
      ∃ lead tail,
        regions = .free index lead :: regionsFrom (index + 1) tail := by
  constructor
  · intro alternates
    induction alternates with
    | last index text => exact ⟨text, [], rfl⟩
    | next index text region _ ih =>
        rcases ih with ⟨behind, tail, rfl⟩
        exact ⟨text, (region, behind) :: tail, rfl⟩
  · rintro ⟨lead, tail, rfl⟩
    induction tail generalizing index lead with
    | nil => exact .last index lead
    | cons entry rest ih => exact .next index lead entry.1 (ih entry.2)

/-- A canonical layout without text is the empty one. -/
theorem layoutText_eq_nil
    {lead : Text}
    {tail : List (MarkedRegion × Text)}
    (laid : IsLaidOut MarkedRegion.IsCanonical lead tail)
    (empty : layoutText lead tail = []) :
    lead = [] ∧ tail = [] := by
  cases laid with
  | last plain => exact ⟨by simpa using empty, rfl⟩
  | next plain complete sound ended below =>
      have opening := sound.opening_full.ne_nil
      simp [MarkedRegion.render, opening] at empty

/-- The conditions on a list of regions, as a layout. -/
theorem partsFit_iff
    {index : Nat}
    {lead : Text}
    {tail : List (MarkedRegion × Text)} :
    Region.PartsFit (.free index lead :: regionsFrom (index + 1) tail) ↔
      IsLaidOut MarkedRegion.IsCanonical lead tail := by
  induction tail generalizing index lead with
  | nil =>
      constructor
      · intro fit
        exact .last (Region.partsFit_free.mp fit)
      · rintro ⟨plain⟩
        exact Region.partsFit_free.mpr plain
  | cons entry rest ih =>
      rcases entry with ⟨region, text⟩
      rw [regionsFrom, Region.partsFit_cons, textOf_regionsFrom, ih]
      constructor
      · rintro ⟨plain, complete, canonical, ended, laid⟩
        exact .next plain complete canonical
          (ended.imp_right (layoutText_eq_nil laid)) laid
      · rintro (_ | ⟨plain, complete, canonical, ended, laid⟩)
        refine ⟨plain, complete, canonical, ended.imp_right ?_, laid⟩
        rintro ⟨rfl, rfl⟩
        simp

theorem isWellFormed_regions_iff
    (document : Document) :
    Region.IsWellFormed document.regions document.lineEnding ↔
      IsLaidOut MarkedRegion.IsCanonical document.lead document.tail ∧
        document.lineEnding = .detect document.render := by
  constructor
  · rintro ⟨-, fit, ending⟩
    exact ⟨partsFit_iff.mp fit, by rwa [textOf_regions] at ending⟩
  · rintro ⟨laid, ending⟩
    exact
      ⟨alternates_iff.mpr ⟨document.lead, document.tail, rfl⟩,
        partsFit_iff.mpr laid, by rwa [textOf_regions]⟩

/-- A document with well-formed regions reads back. -/
theorem parse_render_of_isWellFormed
    {document : Document}
    (wellFormed :
      Region.IsWellFormed document.regions document.lineEnding) :
    parse document.render = .ok document := by
  rcases document.isWellFormed_regions_iff.mp wellFormed with ⟨laid, ending⟩
  have read := parse_layoutText (laid.imp fun _ good => good.toIsReadable)
  rw [map_settle_of_isCanonical laid] at read
  rw [render_eq_layoutText] at ending ⊢
  rw [read, ← ending]

/-- What is read has well-formed regions. -/
theorem isWellFormed_of_parse
    {text : Text}
    {document : Document}
    (read : parse text = .ok document) :
    Region.IsWellFormed document.regions document.lineEnding ∧
      document.render = text := by
  rcases parse_eq_ok_iff.mp read with ⟨-, ending⟩
  have consumed : document.render = text := by
    rw [render_eq_layoutText, layoutText_of_parse read]
  refine ⟨document.isWellFormed_regions_iff.mpr ⟨?_, ?_⟩, consumed⟩
  · exact isLaidOut_of_parse read
  · rw [consumed, ending]

/-- The well-formed lists of regions are those that are read, each from its
own text. -/
theorem isWellFormed_iff_parse :
    (∀ document : Document,
      Region.IsWellFormed document.regions document.lineEnding ↔
        parse document.render = .ok document) ∧
    ∀ (text : Text) (regions : List Region) (ending : LineEnding),
      Region.IsWellFormed regions ending ∧ Region.textOf regions = text ↔
        ∃ document,
          parse text = .ok document ∧ document.regions = regions ∧
            document.lineEnding = ending := by
  refine ⟨fun document => ⟨parse_render_of_isWellFormed, fun read =>
    (isWellFormed_of_parse read).1⟩, fun text regions ending => ?_⟩
  constructor
  · rintro ⟨wellFormed, rfl⟩
    rcases alternates_iff.mp wellFormed.alternates with ⟨lead, tail, rfl⟩
    let document : Document := { lead, tail, lineEnding := ending }
    have shape : document.regions =
        .free 0 lead :: regionsFrom 1 tail := rfl
    rw [← shape] at wellFormed ⊢
    rw [textOf_regions]
    exact ⟨document, parse_render_of_isWellFormed wellFormed, rfl, rfl⟩
  · rintro ⟨document, read, rfl, rfl⟩
    rcases isWellFormed_of_parse read with ⟨wellFormed, consumed⟩
    exact ⟨wellFormed, by rw [textOf_regions, consumed]⟩

end Document

end RegionSync
