import RegionSync.Proofs.Document.Concatenation
import RegionSync.Proofs.Document.Pairing

/-!
# Where a fault is reported

A malformed document is reported with the number of a line and with a range of
bytes, which the reader keeps apart: it counts lines and it adds up their
bytes.  `StandsAt` says of both that they name one line of the text, the one
with the marker that is at fault.

`Reached` is what the reader knows behind the lines that it has read.  Each
line that does not end the reading takes it to the next state, and a fault is
reported at the current line, or at the opening line that the state remembers.
-/

namespace RegionSync

/-! ## Offsets in bytes -/

/-- The part of a text that a range of bytes covers. -/
def Span.part (span : Span) (text : Text) : Text :=
  (Text.splitAtByte (span.stop - span.start)
    (Text.splitAtByte span.start text).2).1

namespace Text

/-- Whether an offset lies between two characters of the UTF-8 form of a
text, or at an end of it. -/
def IsBoundary (text : Text) (offset : Nat) : Prop :=
  String.Pos.Raw.IsValid (String.ofList text) ⟨offset⟩

theorem utf8ByteSize_ofList (text : Text) :
    (String.ofList text).utf8ByteSize = text.byteSize := by
  induction text with
  | nil => rfl
  | cons char rest ih =>
      rw [String.ofList_cons, String.utf8ByteSize_append,
        String.utf8ByteSize_singleton, ih, byteSize_cons]

theorem isBoundary_append
    (front behind : Text) :
    (front ++ behind).IsBoundary front.byteSize := by
  rw [IsBoundary, String.Pos.Raw.isValid_iff_exists_append]
  refine ⟨String.ofList front, String.ofList behind,
    String.ofList_append, ?_⟩
  rw [← utf8ByteSize_ofList]
  rfl

theorem splitAtByte_byteSize
    (front behind : Text) :
    splitAtByte front.byteSize (front ++ behind) = (front, behind) := by
  induction front with
  | nil =>
      cases behind with
      | nil => rfl
      | cons char rest =>
          have positive := char.utf8Size_pos
          simp [splitAtByte]
          omega
  | cons char rest ih =>
      rw [List.cons_append, byteSize_cons, splitAtByte,
        if_pos (Nat.le_add_right _ _), Nat.add_sub_cancel_left, ih]

theorem exists_content_append (line : Text) :
    ∃ terminator, line.content ++ terminator = line := by
  rcases exists_dropFinal_append '\n' line with ⟨feed, -, whole⟩
  rcases exists_dropFinal_append '\r' (dropFinal '\n' line) with
    ⟨back, -, inner⟩
  exact ⟨back ++ feed, by rw [content, ← List.append_assoc, inner, whole]⟩

theorem byteSize_pos
    {text : Text}
    (nonempty : text ≠ []) :
    0 < text.byteSize := by
  cases text with
  | nil => exact absurd rfl nonempty
  | cons char rest =>
      have positive := char.utf8Size_pos
      rw [byteSize_cons]
      omega

end Text

/-! ## The marker at fault -/

/-- The name that a marker carries. -/
def Marker.name : Marker → Text
  | opening name _ => name
  | closing name => name

/-- The marker that a fault is reported at, with the markers in front of it
and behind it.  What stands in front are pairs, and the opening marker of a
region that is open. -/
inductive MarkerFault.IsAt : List Marker → Marker → List Marker →
    MarkerFault → Prop where
  | unterminated
      {before : List Marker}
      (paired : Marker.ArePaired before)
      (name : Text)
      (version : Option Text) :
      IsAt before (.opening name version) [] (.unterminated name)
  | nested
      {before : List Marker}
      (paired : Marker.ArePaired before)
      (name outer : Text)
      (version outerVersion : Option Text)
      (behind : List Marker) :
      IsAt (before ++ [.opening outer outerVersion]) (.opening name version)
        behind (.nested name outer)
  | mismatched
      {before : List Marker}
      {name outer : Text}
      (paired : Marker.ArePaired before)
      (different : name ≠ outer)
      (outerVersion : Option Text)
      (behind : List Marker) :
      IsAt (before ++ [.opening outer outerVersion]) (.closing name) behind
        (.mismatched name outer)
  | unopened
      {before : List Marker}
      (paired : Marker.ArePaired before)
      (name : Text)
      (behind : List Marker) :
      IsAt before (.closing name) behind (.unopened name)

theorem MarkerFault.IsAt.name_eq
    {before behind : List Marker}
    {marker : Marker}
    {fault : MarkerFault}
    (stands : fault.IsAt before marker behind) :
    marker.name = fault.name := by
  cases stands <;> rfl

namespace Marker

theorem ne_nil_of_ofLine?
    {line : Text}
    {marker : Marker}
    (kind : ofLine? line = some marker) :
    line ≠ [] := by
  rintro rfl
  cases kind

theorem ofLabels_append
    (first second : List (Text × Option Text)) :
    ofLabels (first ++ second) = ofLabels first ++ ofLabels second :=
  List.flatMap_append

theorem ArePaired.append_pair
    {markers : List Marker}
    (paired : ArePaired markers)
    (name : Text)
    (version : Option Text) :
    ArePaired (markers ++ [opening name version, closing name]) := by
  rcases paired with ⟨labels, rfl⟩
  refine ⟨labels ++ [(name, version)], ?_⟩
  rw [ofLabels_append]
  rfl

end Marker

namespace Document

/-! ## The state of the reader -/

/-- The markers of some raw lines. -/
def lineMarkers (lines : List Text) : List Marker :=
  lines.filterMap Marker.ofRawLine?

@[simp]
theorem lineMarkers_nil : lineMarkers [] = [] :=
  rfl

@[simp]
theorem lineMarkers_append
    (first second : List Text) :
    lineMarkers (first ++ second) = lineMarkers first ++ lineMarkers second :=
  List.filterMap_append

theorem lineMarkers_cons_of_none
    {line : Text}
    (kind : Marker.ofRawLine? line = none)
    (rest : List Text) :
    lineMarkers (line :: rest) = lineMarkers rest :=
  List.filterMap_cons_none kind

theorem lineMarkers_cons_of_some
    {line : Text}
    {marker : Marker}
    (kind : Marker.ofRawLine? line = some marker)
    (rest : List Text) :
    lineMarkers (line :: rest) = marker :: lineMarkers rest :=
  List.filterMap_cons_some kind

/-- The state of the reader behind some raw lines at the start of a text. -/
inductive Reached : List Text → Option Opening → Prop where
  | free
      {front : List Text}
      (paired : Marker.ArePaired (lineMarkers front)) :
      Reached front none
  | inside
      {before inner held : List Text}
      {line name : Text}
      {version : Option Text}
      (paired : Marker.ArePaired (lineMarkers before))
      (kind : Marker.ofRawLine? line = some (.opening name version))
      (unmarked : lineMarkers inner = []) :
      Reached (before ++ line :: inner)
        (some ⟨name, version, line, Place.start.after before, held⟩)

namespace Reached

variable {front : List Text} {line : Text} {opened : Opening}

theorem paired
    (reached : Reached front none) :
    Marker.ArePaired (lineMarkers front) := by
  cases reached with
  | free paired => exact paired

theorem text
    (reached : Reached front none)
    (kind : Marker.ofRawLine? line = none) :
    Reached (front ++ [line]) none := by
  refine .free ?_
  rw [lineMarkers_append, lineMarkers_cons_of_none kind, lineMarkers_nil,
    List.append_nil]
  exact reached.paired

theorem opens
    (reached : Reached front none)
    {name : Text}
    {version : Option Text}
    (kind : Marker.ofRawLine? line = some (.opening name version)) :
    Reached (front ++ [line])
      (some ⟨name, version, line, Place.start.after front, []⟩) :=
  .inside reached.paired kind rfl

theorem push
    (reached : Reached front (some opened))
    (kind : Marker.ofRawLine? line = none) :
    Reached (front ++ [line]) (some (opened.push line)) := by
  cases reached with
  | inside paired openingKind unmarked =>
      rw [List.append_assoc, List.cons_append]
      refine .inside paired openingKind ?_
      rw [lineMarkers_append, lineMarkers_cons_of_none kind, unmarked]
      rfl

theorem lineMarkers_inside
    (reached : Reached front (some opened)) :
    ∃ before,
      Marker.ArePaired before ∧
        lineMarkers front = before ++ [.opening opened.name opened.version] := by
  cases reached with
  | @inside before inner held line name version paired kind unmarked =>
      refine ⟨lineMarkers before, paired, ?_⟩
      rw [lineMarkers_append, lineMarkers_cons_of_some kind, unmarked]

theorem closes
    (reached : Reached front (some opened))
    (kind : Marker.ofRawLine? line = some (.closing opened.name)) :
    Reached (front ++ [line]) none := by
  rcases reached.lineMarkers_inside with ⟨before, paired, markers⟩
  refine .free ?_
  rw [lineMarkers_append, markers, lineMarkers_cons_of_some kind,
    List.append_assoc]
  exact paired.append_pair opened.name opened.version

end Reached

theorem Place.after_append_singleton
    (place : Place)
    (front : List Text)
    (line : Text) :
    place.after (front ++ [line]) = (place.after front).next line :=
  List.foldl_append

/-- A fault that is reported at the raw line between some others, with the
marker on that line. -/
structure FaultStandsAt
    (malformed : Malformed)
    (before : List Text)
    (line : Text)
    (behind : List Text)
    (marker : Marker) :
    Prop where
  kind : Marker.ofRawLine? line = some marker
  fault :
    malformed.fault.IsAt (lineMarkers before) marker (lineMarkers behind)
  place :
    malformed = (Place.start.after before).malformed line malformed.fault

/-- A fault that is reported at one of some raw lines. -/
def FaultStandsIn (malformed : Malformed) (lines : List Text) : Prop :=
  ∃ before line behind marker,
    lines = before ++ line :: behind ∧
      FaultStandsAt malformed before line behind marker

/-- Whatever state the reader is in, a fault stands at a line that it has read
or is going to read. -/
theorem Reached.faultStandsIn
    {front lines : List Text}
    {opened : Option Opening}
    {malformed : Malformed}
    (reached : Reached front opened)
    (failed :
      readLines opened (Place.start.after front) lines = .error malformed) :
    FaultStandsIn malformed (front ++ lines) := by
  induction lines generalizing front opened with
  | nil =>
      cases reached with
      | free paired => cases failed
      | @inside before inner held line name version paired kind unmarked =>
          obtain rfl := Except.error.inj failed
          refine ⟨before, line, inner, _, by simp, kind, ?_, rfl⟩
          rw [unmarked]
          exact .unterminated paired name version
  | cons line rest ih =>
      have onward {next : Option Opening}
          (step : Reached (front ++ [line]) next)
          (below :
            readLines next ((Place.start.after front).next line) rest =
              .error malformed) :
          FaultStandsIn malformed (front ++ line :: rest) := by
        rw [← Place.after_append_singleton] at below
        rw [List.append_cons]
        exact ih step below
      cases opened with
      | none =>
          rcases readLines_none_cons_eq_error_iff.mp failed with
            ⟨kind, below⟩ | ⟨name, version, kind, below⟩ | ⟨name, kind, rfl⟩
          · exact onward (reached.text kind) below
          · exact onward (reached.opens kind) below
          · exact ⟨front, line, rest, _, rfl, kind,
              .unopened reached.paired name _, rfl⟩
      | some opened =>
          rcases reached.lineMarkers_inside with ⟨before, paired, markers⟩
          rcases readLines_some_cons_eq_error_iff.mp failed with
            ⟨kind, below⟩ | ⟨kind, below⟩ | ⟨name, version, kind, rfl⟩ |
              ⟨name, kind, different, rfl⟩
          · exact onward (reached.push kind) below
          · exact onward (reached.closes kind) below
          · refine ⟨front, line, rest, _, rfl, kind, ?_, rfl⟩
            rw [markers]
            exact .nested paired name opened.name version opened.version _
          · refine ⟨front, line, rest, _, rfl, kind, ?_, rfl⟩
            rw [markers]
            exact .mismatched paired different opened.version _

theorem parse_eq_error_iff
    {text : Text}
    {malformed : Malformed} :
    parse text = .error malformed ↔
      readLines none .start text.rawLines = .error malformed := by
  cases below : readLines none .start text.rawLines <;>
    simp [parse, below, bind, Except.bind, pure, Except.pure]

/-- The place behind full lines, by the text that they are. -/
theorem Place.after_start
    {lines : List Text}
    (full : ∀ line ∈ lines, line.IsFullLine) :
    Place.start.after lines =
      ⟨lines.flatten.count '\n' + 1, Text.byteSize lines.flatten⟩ := by
  rw [Place.after_eq_shift, Text.count_feed_flatten full]
  simp only [Place.shift, Place.start, Place.mk.injEq]
  omega

end Document

/-! ## The line in the text -/

/-- A fault that is reported at a line of a text, with the marker on that line.

The text is cut in front of the line and behind it. -/
structure Malformed.StandsAt
    (malformed : Malformed)
    (before line behind : Text)
    (marker : Marker) :
    Prop where
  /-- The line starts at the start of the text or behind a line feed. -/
  line_start : before = [] ∨ before.getLast? = some '\n'
  isLine : line.IsLine
  /-- It ends with its line feed or at the end of the text. -/
  line_end : line.IsFullLine ∨ behind = []
  number : malformed.line = before.count '\n' + 1
  span :
    malformed.span =
      ⟨before.byteSize, before.byteSize + line.content.byteSize⟩
  kind : Marker.ofLine? line.content = some marker
  fault : malformed.fault.IsAt before.markers marker behind.markers

/-- The byte range of a fault in a text covers the line of a marker. -/
structure Malformed.Covers
    (malformed : Malformed)
    (text line : Text)
    (marker : Marker) :
    Prop where
  start_isBoundary : text.IsBoundary malformed.span.start
  stop_isBoundary : text.IsBoundary malformed.span.stop
  start_lt_stop : malformed.span.start < malformed.span.stop
  stop_le : malformed.span.stop ≤ text.byteSize
  part_eq : malformed.span.part text = line.content
  name_eq : marker.name = malformed.fault.name

theorem Malformed.StandsAt.covers
    {malformed : Malformed}
    {before line behind : Text}
    {marker : Marker}
    (stands : malformed.StandsAt before line behind marker) :
    malformed.Covers (before ++ (line ++ behind)) line marker := by
  rcases line.exists_content_append with ⟨terminator, whole⟩
  have cut :
      line ++ behind = line.content ++ (terminator ++ behind) := by
    rw [← List.append_assoc, whole]
  have positive : 0 < line.content.byteSize :=
    Text.byteSize_pos (Marker.ne_nil_of_ofLine? stands.kind)
  rw [cut]
  exact
    { start_isBoundary := by
        rw [stands.span]
        exact Text.isBoundary_append before _
      stop_isBoundary := by
        rw [stands.span, ← Text.byteSize_append, ← List.append_assoc]
        exact Text.isBoundary_append _ _
      start_lt_stop := by
        rw [stands.span]
        exact Nat.lt_add_of_pos_right positive
      stop_le := by
        rw [stands.span]
        simp only [Text.byteSize_append]
        omega
      part_eq := by
        rw [stands.span, Span.part, Text.splitAtByte_byteSize,
          Nat.add_sub_cancel_left, Text.splitAtByte_byteSize]
      name_eq := stands.fault.name_eq }

namespace Document

theorem FaultStandsAt.standsAt
    {malformed : Malformed}
    {before behind : List Text}
    {line : Text}
    {marker : Marker}
    (stands : FaultStandsAt malformed before line behind marker)
    (cut : Text.AreLines (before ++ line :: behind)) :
    malformed.StandsAt before.flatten line behind.flatten marker := by
  have beforeFull := cut.full_of_append (by simp)
  rcases cut.of_append with ⟨single, full, cutBehind⟩
  have place := stands.place
  rw [Place.after_start beforeFull] at place
  exact
    { line_start := Text.isComplete_flatten beforeFull
      isLine := single
      line_end := by
        by_cases more : behind = []
        · exact Or.inr (by rw [more]; rfl)
        · exact Or.inl (full more)
      number := by rw [place]; rfl
      span := by rw [place]; rfl
      kind := stands.kind
      fault := by
        rw [Text.markers, Text.markers, Text.rawLines_flatten beforeFull,
          cutBehind.rawLines_flatten]
        exact stands.fault }

/-- A fault is reported at a line of the text. -/
theorem exists_standsAt_of_parse
    {text : Text}
    {malformed : Malformed}
    (failed : parse text = .error malformed) :
    ∃ before line behind marker,
      text = before ++ (line ++ behind) ∧
        malformed.StandsAt before line behind marker := by
  have start : Reached [] none := .free ⟨[], rfl⟩
  rcases start.faultStandsIn (parse_eq_error_iff.mp failed) with
    ⟨before, line, behind, marker, lines, stands⟩
  rw [List.nil_append] at lines
  have cut := Text.areLines_rawLines text
  rw [lines] at cut
  refine ⟨before.flatten, line, behind.flatten, marker, ?_,
    stands.standsAt cut⟩
  rw [← Text.flatten_rawLines text, lines]
  simp

end Document

end RegionSync
