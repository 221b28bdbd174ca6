import RegionSync.Proofs.Document.Reading

/-!
# Which texts are documents

Of a text, only its markers decide whether it can be read.  `Text.markers` are
the markers of its lines in order, and they must be a concatenation of pairs:
an opening marker and right behind it a closing one of the same name.

What is wrong with other markers shows when as many complete pairs as possible
are taken off the front.  `IsLongestPaired` describes this prefix without a
reader, and `MarkerFault.IsFirstOf` says what the rest starts with.

`pairUp` takes the pairs off one after the other, and `outcome_readLines` ties
it to the reader: a region that is open counts as an opening marker in front
of the markers that are still to come.
-/

namespace RegionSync

/-- The markers of a text, in the order of their lines. -/
def Text.markers (text : Text) : List Marker :=
  text.rawLines.filterMap Marker.ofRawLine?

/-- What the opening marker of a region says. -/
def MarkedRegion.label (region : MarkedRegion) : Text × Option Text :=
  (region.name, region.version)

namespace Marker

/-! ## Pairs of markers -/

/-- Pairs of markers with some names and versions. -/
def ofLabels (labels : List (Text × Option Text)) : List Marker :=
  labels.flatMap fun (name, version) => [opening name version, closing name]

@[simp]
theorem ofLabels_cons
    (name : Text)
    (version : Option Text)
    (rest : List (Text × Option Text)) :
    ofLabels ((name, version) :: rest) =
      opening name version :: closing name :: ofLabels rest :=
  rfl

/-- Markers that open and close regions in turn, each under its name. -/
def ArePaired (markers : List Marker) : Prop :=
  ∃ labels, markers = ofLabels labels

/-- A cut of some markers behind the longest part that is paired. -/
structure IsLongestPaired
    (paired rest markers : List Marker) :
    Prop where
  whole : markers = paired ++ rest
  arePaired : ArePaired paired
  longest :
    ∀ other, ArePaired other → other <+: markers → other <+: paired

end Marker

/-- What is wrong with the first of some markers that start with no pair. -/
inductive MarkerFault.IsFirstOf : List Marker → MarkerFault → Prop where
  | unopened (name : Text) (rest : List Marker) :
      IsFirstOf (.closing name :: rest) (.unopened name)
  | nested
      (name outer : Text)
      (version outerVersion : Option Text)
      (rest : List Marker) :
      IsFirstOf
        (.opening outer outerVersion :: .opening name version :: rest)
        (.nested name outer)
  | mismatched
      {name outer : Text}
      (outerVersion : Option Text)
      (rest : List Marker)
      (different : name ≠ outer) :
      IsFirstOf (.opening outer outerVersion :: .closing name :: rest)
        (.mismatched name outer)
  | unterminated (outer : Text) (version : Option Text) :
      IsFirstOf [.opening outer version] (.unterminated outer)

namespace Marker

/-- No pair stands in front of a fault. -/
theorem eq_nil_of_ofLabels_prefix
    {labels : List (Text × Option Text)}
    {rest : List Marker}
    {fault : MarkerFault}
    (first : fault.IsFirstOf rest)
    (within : ofLabels labels <+: rest) :
    labels = [] := by
  cases labels with
  | nil => rfl
  | cons label others =>
      rcases label with ⟨name, version⟩
      rcases within with ⟨behind, rfl⟩
      rw [ofLabels_cons] at first
      cases first with
      | mismatched _ _ different => exact absurd rfl different

/-- Pairs in front of a fault are all the pairs that can be taken off. -/
theorem isLongestPaired_of_isFirstOf
    {labels : List (Text × Option Text)}
    {rest : List Marker}
    {fault : MarkerFault}
    (first : fault.IsFirstOf rest) :
    IsLongestPaired (ofLabels labels) rest (ofLabels labels ++ rest) where
  whole := rfl
  arePaired := ⟨labels, rfl⟩
  longest := by
    rintro other ⟨otherLabels, rfl⟩ within
    induction labels generalizing otherLabels with
    | nil =>
        obtain rfl := eq_nil_of_ofLabels_prefix first within
        exact List.prefix_rfl
    | cons label labels ih =>
        cases otherLabels with
        | nil => exact List.nil_prefix
        | cons otherLabel others =>
            rcases label with ⟨name, version⟩
            rcases otherLabel with ⟨otherName, otherVersion⟩
            simp only [ofLabels_cons, List.cons_append,
              List.cons_prefix_cons] at within ⊢
            rcases within with ⟨opened, closed, below⟩
            exact ⟨opened, closed, ih others below⟩

/-! ## Taking pairs off -/

/-- The names and versions of paired markers, or what is wrong behind the
pairs at the front. -/
def pairUp : List Marker → Except MarkerFault (List (Text × Option Text))
  | [] => .ok []
  | closing name :: _ => .error (.unopened name)
  | [opening outer _] => .error (.unterminated outer)
  | opening outer _ :: opening name _ :: _ => .error (.nested name outer)
  | opening outer version :: closing name :: rest =>
      if name = outer then
        (pairUp rest).map (List.cons (outer, version))
      else
        .error (.mismatched name outer)

/-- Markers that are paired, or pairs with a fault behind them. -/
theorem pairUp_cases (markers : List Marker) :
    (∃ labels, markers = ofLabels labels ∧ pairUp markers = .ok labels) ∨
      ∃ labels rest fault,
        markers = ofLabels labels ++ rest ∧ fault.IsFirstOf rest ∧
          pairUp markers = .error fault := by
  fun_induction pairUp markers with
  | case1 => exact Or.inl ⟨[], rfl, rfl⟩
  | case2 name rest =>
      exact Or.inr ⟨[], _, _, rfl, .unopened name rest, rfl⟩
  | case3 outer version =>
      exact Or.inr ⟨[], _, _, rfl, .unterminated outer version, rfl⟩
  | case4 outer outerVersion name version rest =>
      exact Or.inr
        ⟨[], _, _, rfl, .nested name outer version outerVersion rest, rfl⟩
  | case5 version outer rest ih =>
      rcases ih with
        ⟨labels, rfl, done⟩ | ⟨labels, behind, fault, rfl, first, failed⟩
      · exact Or.inl ⟨(outer, version) :: labels, rfl, by rw [done]; rfl⟩
      · exact Or.inr
          ⟨(outer, version) :: labels, behind, fault, rfl, first,
            by rw [failed]; rfl⟩
  | case6 outer version name rest different =>
      exact Or.inr
        ⟨[], _, _, rfl, .mismatched version rest different, rfl⟩

theorem pairUp_ofLabels
    (labels : List (Text × Option Text)) :
    pairUp (ofLabels labels) = .ok labels := by
  induction labels with
  | nil => rfl
  | cons label rest ih =>
      rcases label with ⟨name, version⟩
      rw [ofLabels_cons, pairUp, if_pos rfl, ih]
      rfl

theorem pairUp_of_isFirstOf
    {rest : List Marker}
    {fault : MarkerFault}
    (first : fault.IsFirstOf rest)
    (labels : List (Text × Option Text)) :
    pairUp (ofLabels labels ++ rest) = .error fault := by
  induction labels with
  | nil =>
      cases first with
      | mismatched version rest different =>
          exact if_neg different
      | unopened name rest => rfl
      | nested name outer version outerVersion rest => rfl
      | unterminated outer version => rfl
  | cons label others ih =>
      rcases label with ⟨name, version⟩
      rw [ofLabels_cons, List.cons_append, List.cons_append, pairUp,
        if_pos rfl, ih]
      rfl

theorem pairUp_eq_ok_iff
    {markers : List Marker}
    {labels : List (Text × Option Text)} :
    pairUp markers = .ok labels ↔ markers = ofLabels labels := by
  constructor
  · intro done
    rcases pairUp_cases markers with
      ⟨found, rfl, same⟩ | ⟨found, rest, fault, -, -, failed⟩
    · rw [Except.ok.inj (same.symm.trans done)]
    · cases failed.symm.trans done
  · rintro rfl
    exact pairUp_ofLabels labels

theorem pairUp_eq_error_iff
    {markers : List Marker}
    {fault : MarkerFault} :
    pairUp markers = .error fault ↔
      ∃ paired rest,
        IsLongestPaired paired rest markers ∧ fault.IsFirstOf rest := by
  constructor
  · intro failed
    rcases pairUp_cases markers with
      ⟨labels, -, done⟩ | ⟨labels, rest, found, rfl, first, same⟩
    · cases done.symm.trans failed
    · obtain rfl := Except.error.inj (same.symm.trans failed)
      exact ⟨_, rest, isLongestPaired_of_isFirstOf first, first⟩
  · rintro ⟨paired, rest, ⟨rfl, ⟨labels, rfl⟩, -⟩, first⟩
    exact pairUp_of_isFirstOf first labels

theorem arePaired_iff
    {markers : List Marker} :
    ArePaired markers ↔ ∃ labels, pairUp markers = .ok labels := by
  simp only [ArePaired, pairUp_eq_ok_iff]

end Marker

namespace Document

/-! ## The reader and the markers -/

/-- A reading, without places and without text. -/
def outcome
    (read : Except Malformed Layout) :
    Except MarkerFault (List (Text × Option Text)) :=
  (read.mapError Malformed.fault).map fun layout =>
    layout.2.map fun (region, _) => region.label

theorem outcome_prepend
    (line : Text)
    (read : Except Malformed Layout) :
    outcome (do
      let (text, regions) ← read
      return (line ++ text, regions)) = outcome read := by
  cases read <;> rfl

theorem outcome_region
    (region : MarkedRegion)
    (read : Except Malformed Layout) :
    outcome (do
      let (text, regions) ← read
      return ([], (region, text) :: regions)) =
        (outcome read).map (List.cons region.label) := by
  cases read <;> rfl

/-- The opening marker that an open region still needs a partner for. -/
def pending (opened : Option Opening) : List Marker :=
  opened.toList.map fun region => .opening region.name region.version

/-- The reader gets as far as the markers are paired. -/
theorem outcome_readLines
    (opened : Option Opening)
    (place : Place)
    (lines : List Text) :
    outcome (readLines opened place lines) =
      Marker.pairUp (pending opened ++ lines.filterMap Marker.ofRawLine?) := by
  induction lines generalizing opened place with
  | nil => cases opened <;> rfl
  | cons line rest ih =>
      cases kind : Marker.ofRawLine? line with
      | none =>
          rw [List.filterMap_cons_none kind]
          cases opened with
          | none =>
              rw [readLines, kind]
              exact (outcome_prepend line _).trans (ih none _)
          | some opened =>
              rw [readLines, kind]
              exact ih (some (opened.push line)) _
      | some marker =>
          rw [List.filterMap_cons_some kind]
          cases opened with
          | none =>
              rw [readLines, kind]
              cases marker with
              | opening name version =>
                  exact ih (some ⟨name, version, line, place, []⟩) _
              | closing name => rfl
          | some opened =>
              rw [readLines, kind]
              cases marker with
              | opening name version => rfl
              | closing name =>
                  simp only [pending, Option.toList_some, List.map_cons,
                    List.map_nil, List.cons_append, List.nil_append,
                    Marker.pairUp]
                  split
                  · rw [outcome_region, ih none]
                    rfl
                  · rfl

/-- Of a text, only the markers decide how it is read. -/
theorem pairUp_markers (text : Text) :
    Marker.pairUp text.markers =
      match parse text with
      | .ok document => .ok (document.marked.map MarkedRegion.label)
      | .error malformed => .error malformed.fault := by
  have lines := outcome_readLines none .start text.rawLines
  rw [pending, Option.toList_none, List.map_nil, List.nil_append] at lines
  rw [Text.markers, ← lines, parse]
  cases readLines none .start text.rawLines with
  | error malformed => rfl
  | ok layout =>
      rcases layout with ⟨lead, tail⟩
      have labels :
          tail.map (fun (region, _) => region.label) =
            (tail.map Prod.fst).map MarkedRegion.label := by
        simp
      exact congrArg Except.ok labels

theorem pairUp_markers_eq_ok_iff
    {text : Text}
    {labels : List (Text × Option Text)} :
    Marker.pairUp text.markers = .ok labels ↔
      ∃ document,
        parse text = .ok document ∧
          document.marked.map MarkedRegion.label = labels := by
  rw [pairUp_markers]
  cases parse text <;> simp

theorem pairUp_markers_eq_error_iff
    {text : Text}
    {fault : MarkerFault} :
    Marker.pairUp text.markers = .error fault ↔
      ∃ malformed,
        parse text = .error malformed ∧ malformed.fault = fault := by
  rw [pairUp_markers]
  cases parse text <;> simp

/-- A text can be read if its markers are paired. -/
theorem exists_parse_iff_arePaired
    {text : Text} :
    (∃ document, parse text = .ok document) ↔
      Marker.ArePaired text.markers := by
  rw [Marker.arePaired_iff]
  constructor
  · rintro ⟨document, read⟩
    exact ⟨_, pairUp_markers_eq_ok_iff.mpr ⟨document, read, rfl⟩⟩
  · rintro ⟨labels, paired⟩
    rcases pairUp_markers_eq_ok_iff.mp paired with ⟨document, read, -⟩
    exact ⟨document, read⟩

/-- A text is read exactly if its markers are pairs, and the regions are these
pairs.  Otherwise the fault is what stands behind the longest part that is
paired. -/
theorem parse_iff_markers
    (text : Text) :
    (∀ labels,
      (∃ document,
          parse text = .ok document ∧
            document.marked.map MarkedRegion.label = labels) ↔
        text.markers = Marker.ofLabels labels) ∧
    ∀ fault,
      (∃ malformed,
          parse text = .error malformed ∧ malformed.fault = fault) ↔
        ∃ paired rest,
          Marker.IsLongestPaired paired rest text.markers ∧
            fault.IsFirstOf rest := by
  constructor
  · intro labels
    rw [← pairUp_markers_eq_ok_iff, Marker.pairUp_eq_ok_iff]
  · intro fault
    rw [← pairUp_markers_eq_error_iff, Marker.pairUp_eq_error_iff]

end Document

end RegionSync
