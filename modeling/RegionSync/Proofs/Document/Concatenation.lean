import RegionSync.Proofs.Document.Layout
import RegionSync.Proofs.Outcome
import RegionSync.Proofs.Text.Break

/-!
# Reading one text behind another

The reader does not look back.  Once it has read a text to its end and no
region is open, it goes on with what follows as it would start with it, except
that the places are further down and that the free text at the end of the
first document goes on into the second.

`joinAt` puts two layouts together where they meet, and `shift` moves a place
or a fault down by some lines and bytes.  `parse_append_of_ok` says how a
concatenation is read in terms of these, for every second text, whether it can
be read or not.  A fault that the first text has before its end is final
(`readLines_append_of_error`); only a region that it leaves open may still be
closed.
-/

namespace RegionSync

/-- A fault, moved down by some lines and bytes. -/
def Malformed.shift
    (lines bytes : Nat)
    (malformed : Malformed) :
    Malformed :=
  { malformed with
    line := malformed.line + lines
    span := ⟨malformed.span.start + bytes, malformed.span.stop + bytes⟩ }

/-- Regions with the free ones numbered from an index on. -/
def Region.renumber : Nat → List Region → List Region
  | _, [] => []
  | index, .free _ text :: rest => .free index text :: renumber (index + 1) rest
  | index, .marked region :: rest => .marked region :: renumber index rest

namespace Document

/-! ## One line, whatever follows -/

theorem readLines_none_of_unmarked
    {line : Text}
    (kind : Marker.ofRawLine? line = none)
    (place : Place)
    (rest : List Text) :
    readLines none place (line :: rest) =
      (readLines none (place.next line) rest).map (prependText line) := by
  rw [readLines, kind]
  cases readLines none (place.next line) rest <;> rfl

/-- A marked region in front of a layout. -/
def prependRegion (region : MarkedRegion) (layout : Layout) : Layout :=
  ([], (region, layout.1) :: layout.2)

theorem readLines_some_of_closing
    {opened : Opening}
    {line : Text}
    (kind : Marker.ofRawLine? line = some (.closing opened.name))
    (place : Place)
    (rest : List Text) :
    readLines (some opened) place (line :: rest) =
      (readLines none (place.next line) rest).map
        (prependRegion (opened.close line)) := by
  rw [readLines, kind]
  simp only [if_true]
  cases readLines none (place.next line) rest <;> rfl

/-- In free text a reading fails further down or at a closing marker. -/
theorem readLines_none_cons_eq_error_iff
    {place : Place}
    {line : Text}
    {rest : List Text}
    {malformed : Malformed} :
    readLines none place (line :: rest) = .error malformed ↔
      (Marker.ofRawLine? line = none ∧
        readLines none (place.next line) rest = .error malformed) ∨
      (∃ name version,
        Marker.ofRawLine? line = some (.opening name version) ∧
          readLines (some ⟨name, version, line, place, []⟩)
            (place.next line) rest = .error malformed) ∨
      ∃ name,
        Marker.ofRawLine? line = some (.closing name) ∧
          malformed = place.malformed line (.unopened name) := by
  cases kind : Marker.ofRawLine? line with
  | none => simp [readLines_none_of_unmarked kind, Except.map_eq_error_iff]
  | some marker =>
      cases marker with
      | opening name version =>
          rw [readLines, kind]
          constructor
          · intro below
            exact Or.inr (Or.inl ⟨name, version, rfl, below⟩)
          · rintro (⟨absurdity, -⟩ | ⟨_, _, same, below⟩ | ⟨_, absurdity, -⟩)
            · cases absurdity
            · cases same
              exact below
            · cases absurdity
      | closing name => simp [readLines, kind, eq_comm]

/-- In an open region a reading fails further down or at a marker that does not
close the region. -/
theorem readLines_some_cons_eq_error_iff
    {opened : Opening}
    {place : Place}
    {line : Text}
    {rest : List Text}
    {malformed : Malformed} :
    readLines (some opened) place (line :: rest) = .error malformed ↔
      (Marker.ofRawLine? line = none ∧
        readLines (some (opened.push line)) (place.next line) rest =
          .error malformed) ∨
      (Marker.ofRawLine? line = some (.closing opened.name) ∧
        readLines none (place.next line) rest = .error malformed) ∨
      (∃ name version,
        Marker.ofRawLine? line = some (.opening name version) ∧
          malformed = place.malformed line (.nested name opened.name)) ∨
      ∃ name,
        Marker.ofRawLine? line = some (.closing name) ∧
          name ≠ opened.name ∧
          malformed = place.malformed line (.mismatched name opened.name) := by
  cases kind : Marker.ofRawLine? line with
  | none => simp [readLines, kind]
  | some marker =>
      cases marker with
      | opening name version => simp [readLines, kind, eq_comm]
      | closing name =>
          by_cases same : name = opened.name
          · subst same
            simp [readLines_some_of_closing kind, Except.map_eq_error_iff]
          · simp [readLines, kind, same, eq_comm]

/-! ## Places further down -/

/-- A place, moved down by some lines and bytes. -/
def Place.shift (lines bytes : Nat) (place : Place) : Place :=
  ⟨place.line + lines, place.offset + bytes⟩

theorem Place.next_shift
    (lines bytes : Nat)
    (place : Place)
    (line : Text) :
    (place.shift lines bytes).next line =
      (place.next line).shift lines bytes := by
  simp only [Place.shift, Place.next, Place.mk.injEq]
  omega

theorem Place.malformed_shift
    (lines bytes : Nat)
    (place : Place)
    (line : Text)
    (fault : MarkerFault) :
    (place.shift lines bytes).malformed line fault =
      (place.malformed line fault).shift lines bytes := by
  simp only [Place.shift, Place.malformed, Malformed.shift,
    Malformed.mk.injEq, Span.mk.injEq, and_true, true_and]
  omega

/-- Behind some lines, a place has moved by their number and their bytes. -/
theorem Place.after_eq_shift
    (place : Place)
    (lines : List Text) :
    place.after lines =
      place.shift lines.length (Text.byteSize lines.flatten) := by
  induction lines generalizing place with
  | nil => rfl
  | cons line rest ih =>
      rw [Place.after_cons, ih]
      simp only [Place.shift, Place.next, List.length_cons,
        List.flatten_cons, Text.byteSize_append, Place.mk.injEq]
      omega

def Opening.shift (lines bytes : Nat) (opened : Opening) : Opening :=
  { opened with place := opened.place.shift lines bytes }

/-- The reader takes the same steps further down. -/
theorem readLines_shift
    (lines bytes : Nat)
    (opened : Option Opening)
    (place : Place)
    (rest : List Text) :
    readLines (opened.map (Opening.shift lines bytes))
        (place.shift lines bytes) rest =
      (readLines opened place rest).mapError
        (Malformed.shift lines bytes) := by
  induction rest generalizing opened place with
  | nil =>
      cases opened with
      | none => rfl
      | some opened =>
          exact congrArg Except.error (Place.malformed_shift ..)
  | cons line rest ih =>
      have below (found : Option Opening) :
          readLines (found.map (Opening.shift lines bytes))
              ((place.shift lines bytes).next line) rest =
            (readLines found (place.next line) rest).mapError
              (Malformed.shift lines bytes) := by
        rw [Place.next_shift]
        exact ih found (place.next line)
      have fault (reason : MarkerFault) :
          Except.error (ε := Malformed) (α := Layout)
              ((place.shift lines bytes).malformed line reason) =
            (Except.error (place.malformed line reason)).mapError
              (Malformed.shift lines bytes) :=
        congrArg Except.error (Place.malformed_shift ..)
      cases kind : Marker.ofRawLine? line with
      | none =>
          cases opened with
          | none =>
              rw [Option.map_none, readLines_none_of_unmarked kind,
                readLines_none_of_unmarked kind, ← Except.mapError_map,
                ← below none]
              rfl
          | some opened =>
              simp only [Option.map_some, readLines, kind]
              exact below (some (opened.push line))
      | some marker =>
          cases opened with
          | none =>
              cases marker with
              | opening name version =>
                  simp only [Option.map_none, readLines, kind]
                  exact below (some ⟨name, version, line, place, []⟩)
              | closing name =>
                  simp only [Option.map_none, readLines, kind]
                  exact fault _
          | some opened =>
              cases marker with
              | opening name version =>
                  simp only [Option.map_some, readLines, kind]
                  exact fault _
              | closing name =>
                  by_cases same : name = opened.name
                  · subst same
                    have kindBelow :
                        Marker.ofRawLine? line =
                          some (.closing
                            (opened.shift lines bytes).name) := kind
                    rw [Option.map_some, readLines_some_of_closing kindBelow,
                      readLines_some_of_closing kind, ← Except.mapError_map,
                      ← below none]
                    rfl
                  · have different :
                        name ≠ (opened.shift lines bytes).name := same
                    simp only [Option.map_some, readLines, kind, if_neg same,
                      if_neg different]
                    exact fault _

/-! ## Layouts that meet -/

/-- The layout of two texts, one behind the other: the last free text of the
first and the first free text of the second are one. -/
def joinAt (lead : Text) : List (MarkedRegion × Text) → Layout → Layout
  | [], behind => prependText lead behind
  | (region, text) :: rest, behind =>
      prependText lead (prependRegion region (joinAt text rest behind))

theorem joinAt_append
    (first lead : Text)
    (tail : List (MarkedRegion × Text))
    (behind : Layout) :
    joinAt (first ++ lead) tail behind =
      prependText first (joinAt lead tail behind) := by
  cases tail with
  | nil => simp [joinAt, prependText, List.append_assoc]
  | cons entry rest =>
      simp [joinAt, prependText, prependRegion]

/-- Behind lines that were read to their end the reader starts afresh. -/
theorem readLines_append_of_ok
    {opened : Option Opening}
    {place : Place}
    {lines : List Text}
    {lead : Text}
    {tail : List (MarkedRegion × Text)}
    (read : readLines opened place lines = .ok (lead, tail))
    (more : List Text) :
    readLines opened place (lines ++ more) =
      (readLines none (place.after lines) more).map (joinAt lead tail) := by
  induction lines generalizing opened place lead tail with
  | nil =>
      cases opened with
      | none =>
          rcases readLines_none_nil.mp read with ⟨rfl, rfl⟩
          rw [List.nil_append, Place.after_nil]
          cases readLines none place more <;> rfl
      | some opened => exact absurd read readLines_some_nil
  | cons line rest ih =>
      rw [List.cons_append, Place.after_cons]
      cases opened with
      | none =>
          rcases readLines_none_cons_eq_ok_iff.mp read with
            ⟨kind, text, rfl, below⟩ | ⟨name, version, kind, below⟩
          · have step :
                joinAt (line ++ text) tail =
                  fun behind => prependText line (joinAt text tail behind) :=
              funext (joinAt_append line text tail)
            rw [readLines_none_of_unmarked kind, ih below, Except.map_map,
              step]
          · rw [readLines, kind]
            exact ih below
      | some opened =>
          rcases readLines_some_cons_eq_ok_iff.mp read with
            ⟨kind, below⟩ | ⟨kind, rfl, text, regions, rfl, below⟩
          · rw [readLines, kind]
            exact ih below
          · rw [readLines_some_of_closing kind, ih below, Except.map_map]
            rfl

/-- A fault is final unless it is a region that is still open. -/
theorem readLines_append_of_error
    {opened : Option Opening}
    {place : Place}
    {lines : List Text}
    {malformed : Malformed}
    (failed : readLines opened place lines = .error malformed)
    (final : ∀ name, malformed.fault ≠ .unterminated name)
    (more : List Text) :
    readLines opened place (lines ++ more) = .error malformed := by
  induction lines generalizing opened place with
  | nil =>
      cases opened with
      | none => cases failed
      | some opened =>
          obtain rfl := Except.error.inj failed
          exact absurd rfl (final opened.name)
  | cons line rest ih =>
      rw [List.cons_append]
      cases opened with
      | none =>
          rw [readLines_none_cons_eq_error_iff] at failed ⊢
          rcases failed with
            ⟨kind, below⟩ | ⟨name, version, kind, below⟩ | fault
          · exact Or.inl ⟨kind, ih below⟩
          · exact Or.inr (Or.inl ⟨name, version, kind, ih below⟩)
          · exact Or.inr (Or.inr fault)
      | some opened =>
          rw [readLines_some_cons_eq_error_iff] at failed ⊢
          rcases failed with ⟨kind, below⟩ | ⟨kind, below⟩ | fault
          · exact Or.inl ⟨kind, ih below⟩
          · exact Or.inr (Or.inl ⟨kind, ih below⟩)
          · exact Or.inr (Or.inr fault)

/-! ## Documents that meet -/

/-- The document of two texts, one behind the other. -/
def join (left right : Document) : Document :=
  let layout := joinAt left.lead left.tail (right.lead, right.tail)
  { lead := layout.1
    tail := layout.2
    lineEnding :=
      if left.lineEnding = .crlf then .crlf else right.lineEnding }

/-- A text behind one that was read is read as it would be alone, and its
document joins the first one. -/
theorem parse_append_of_ok
    {first : Text}
    (complete : first.IsComplete)
    {left : Document}
    (read : parse first = .ok left)
    (second : Text) :
    parse (first ++ second) =
      match parse second with
      | .ok right => .ok (left.join right)
      | .error malformed =>
          .error (malformed.shift first.rawLines.length first.byteSize) := by
  rcases parse_eq_ok_iff.mp read with ⟨lines, ending⟩
  have moved :
      Place.start.after first.rawLines =
        Place.start.shift first.rawLines.length first.byteSize := by
    rw [Place.after_eq_shift, Text.flatten_rawLines]
  have below :
      readLines none (Place.start.shift first.rawLines.length first.byteSize)
          second.rawLines =
        (readLines none .start second.rawLines).mapError
          (Malformed.shift first.rawLines.length first.byteSize) :=
    readLines_shift _ _ none .start second.rawLines
  have whole :
      LineEnding.detect (first ++ second) =
        if left.lineEnding = .crlf then .crlf
        else LineEnding.detect second := by
    rw [ending, LineEnding.detect, LineEnding.detect, LineEnding.detect,
      complete.hasCrlf_append]
    cases first.hasCrlf <;> rfl
  rw [parse, parse, complete.rawLines_append, readLines_append_of_ok lines,
    moved, below]
  cases readLines none .start second.rawLines with
  | error malformed => rfl
  | ok layout =>
      have unmoved :
          Except.mapError
              (Malformed.shift first.rawLines.length first.byteSize)
              (.ok layout) =
            .ok layout :=
        rfl
      simp only [unmoved, join, bind, Except.bind, pure, Except.pure,
        Except.map, whole]

/-- A fault in front of the end of a text stays what it is. -/
theorem parse_append_of_error
    {first : Text}
    (complete : first.IsComplete)
    {malformed : Malformed}
    (failed : parse first = .error malformed)
    (final : ∀ name, malformed.fault ≠ .unterminated name)
    (second : Text) :
    parse (first ++ second) = .error malformed := by
  have lines :
      readLines none .start first.rawLines = .error malformed := by
    rw [parse] at failed
    cases read : readLines none .start first.rawLines with
    | error found =>
        rw [read] at failed
        rw [Except.error.inj failed]
    | ok layout =>
        rw [read] at failed
        cases failed
  rw [parse, complete.rawLines_append, readLines_append_of_error lines final]
  rfl

theorem lineEnding_join_eq_crlf_iff
    {left right : Document} :
    (left.join right).lineEnding = .crlf ↔
      left.lineEnding = .crlf ∨ right.lineEnding = .crlf := by
  simp only [join]
  split
  · rename_i crlf
    simp [crlf]
  · rename_i other
    simp [other]

/-! ## Regions of joined documents -/

theorem renumber_regionsFrom
    (index other : Nat)
    (tail : List (MarkedRegion × Text)) :
    Region.renumber index (regionsFrom other tail) =
      regionsFrom index tail := by
  induction tail generalizing index other with
  | nil => rfl
  | cons entry rest ih =>
      rcases entry with ⟨region, text⟩
      simp only [regionsFrom, Region.renumber, ih]

/-- Joined layouts have the regions of the first up to its last free text, one
free text where they meet, and the other regions of the second. -/
theorem exists_regionsFrom_joinAt
    (index : Nat)
    (lead behind : Text)
    (tail back : List (MarkedRegion × Text)) :
    ∃ front last before,
      .free index lead :: regionsFrom (index + 1) tail =
          front ++ [.free last before] ∧
        .free index (joinAt lead tail (behind, back)).1 ::
            regionsFrom (index + 1) (joinAt lead tail (behind, back)).2 =
          Region.renumber index
            (front ++
              .free last (before ++ behind) :: regionsFrom 1 back) := by
  induction tail generalizing index lead with
  | nil =>
      refine ⟨[], index, lead, rfl, ?_⟩
      simp only [joinAt, prependText, List.nil_append, Region.renumber,
        renumber_regionsFrom]
  | cons entry rest ih =>
      rcases entry with ⟨region, text⟩
      rcases ih (index + 1) text with ⟨front, last, before, left, whole⟩
      refine
        ⟨.free index lead :: .marked region :: front, last, before, ?_, ?_⟩
      · rw [regionsFrom, left]
        rfl
      · simp only [joinAt, prependText, prependRegion, List.append_nil,
          regionsFrom, whole, List.cons_append, Region.renumber]

theorem exists_regions_join
    (left right : Document) :
    ∃ front last before behind back,
      left.regions = front ++ [.free last before] ∧
        right.regions = .free 0 behind :: back ∧
        (left.join right).regions =
          Region.renumber 0
            (front ++ .free last (before ++ behind) :: back) := by
  rcases exists_regionsFrom_joinAt 0 left.lead right.lead left.tail
      right.tail with
    ⟨front, last, before, first, whole⟩
  exact ⟨front, last, before, right.lead, regionsFrom 1 right.tail, first,
    rfl, whole⟩

/-! ## Reading a concatenation -/

/-- Behind a text that ends a line, another text is read as it is read alone:
the documents are joined, or the fault of the second is reported further down.
A fault of the first text before its end is reported whatever follows. -/
theorem parse_append
    {first : Text}
    (complete : first.IsComplete)
    (second : Text) :
    (∀ left right,
      parse first = .ok left →
        parse second = .ok right →
          ∃ whole front last before behind back,
            parse (first ++ second) = .ok whole ∧
              left.regions = front ++ [.free last before] ∧
              right.regions = .free 0 behind :: back ∧
              whole.regions =
                Region.renumber 0
                  (front ++ .free last (before ++ behind) :: back) ∧
              (whole.lineEnding = .crlf ↔
                left.lineEnding = .crlf ∨ right.lineEnding = .crlf)) ∧
    (∀ left malformed,
      parse first = .ok left →
        parse second = .error malformed →
          parse (first ++ second) =
            .error
              (malformed.shift first.rawLines.length first.byteSize)) ∧
    ∀ malformed,
      parse first = .error malformed →
        (∀ name, malformed.fault ≠ .unterminated name) →
          parse (first ++ second) = .error malformed := by
  refine ⟨?_, ?_, ?_⟩
  · intro left right readFirst readSecond
    have read := parse_append_of_ok complete readFirst second
    rw [readSecond] at read
    rcases exists_regions_join left right with
      ⟨front, last, before, behind, back, leftRegions, rightRegions, regions⟩
    exact ⟨left.join right, front, last, before, behind, back, read,
      leftRegions, rightRegions, regions, lineEnding_join_eq_crlf_iff⟩
  · intro left malformed readFirst failed
    have read := parse_append_of_ok complete readFirst second
    rwa [failed] at read
  · intro malformed failed final
    exact parse_append_of_error complete failed final second

/-- A line with a letter of two bytes, in front of a region, in front of a
fault and behind one. -/
theorem parse_append_letter :
    Text.IsComplete "é\r\n".toList ∧
      (∃ whole,
        parse
            ("é\r\n".toList
              ++ "\n<!-- BEGIN: a -->\n<!-- END: a -->".toList) =
            .ok whole ∧
          whole.lineEnding = .crlf) ∧
      parse ("é\r\n".toList ++ "<!-- END: b -->\n".toList) =
        .error ⟨2, ⟨4, 19⟩, .unopened "b".toList⟩ ∧
      parse ("<!-- END: b -->\n".toList ++ "é".toList) =
        .error ⟨1, ⟨0, 15⟩, .unopened "b".toList⟩ := by
  have complete : Text.IsComplete "é\r\n".toList := Or.inr (by decide)
  have read : parse "é\r\n".toList = .ok ⟨"é\r\n".toList, [], .crlf⟩ := rfl
  refine ⟨complete, ?_, ?_, ?_⟩
  · rcases (parse_append complete
        "\n<!-- BEGIN: a -->\n<!-- END: a -->".toList).1 _ _ read rfl with
      ⟨whole, _, _, _, _, _, joined, -, -, -, ending⟩
    exact ⟨whole, joined, ending.mpr (Or.inl rfl)⟩
  · exact
      (parse_append complete "<!-- END: b -->\n".toList).2.1 _
        ⟨1, ⟨0, 15⟩, .unopened "b".toList⟩ read rfl
  · apply (parse_append (Or.inr (by decide)) _).2.2
    · rfl
    · intro name same
      cases same

end Document

end RegionSync
