import RegionSync.Proofs.Document.Layout
import RegionSync.Proofs.Text.Break

/-!
# Reading a document with expanded line feeds

A text without carriage returns and its expansion, where every line feed is a
CRLF, are the same document in two spellings.  The raw lines of the expansion
are the expanded raw lines, each with the same content, so the reader takes
the same steps on both.

`expand` says for every part of a reading what it becomes.  Texts are
expanded, names and versions stay, and a place moves by one byte for each line
in front of it.  `parse_expandFeeds` states that reading commutes with it, for
documents and for faults.
-/

namespace RegionSync

namespace Text

/-! ## Expanded lines -/

theorem expandFeeds_append
    (left right : Text) :
    expandFeeds (left ++ right) = expandFeeds left ++ expandFeeds right := by
  simp [expandFeeds]

@[simp]
theorem expandFeeds_nil : expandFeeds [] = [] :=
  rfl

theorem expandFeeds_flatten (lines : List Text) :
    expandFeeds lines.flatten = (lines.map expandFeeds).flatten := by
  induction lines with
  | nil => rfl
  | cons line rest ih =>
      rw [List.flatten_cons, expandFeeds_append, ih, List.map_cons,
        List.flatten_cons]

theorem rawLines_expandFeeds (text : Text) :
    (expandFeeds text).rawLines = text.rawLines.map expandFeeds := by
  induction text using line_induction with
  | last text noFeed =>
      rw [expandFeeds_of_not_mem noFeed]
      by_cases empty : text = []
      · subst empty
        rfl
      · rw [rawLines_of_not_mem empty noFeed, List.map_singleton,
          expandFeeds_of_not_mem noFeed]
  | line inner rest noFeed ih =>
      have noFeedReturn : '\n' ∉ inner ++ ['\r'] := by simp [noFeed]
      have first : expandFeeds (inner ++ ['\n']) = inner ++ ['\r', '\n'] :=
        expandFeeds_append_feed [] noFeed
      have cut := rawLines_append_feed (expandFeeds rest) noFeedReturn
      rw [ih] at cut
      rw [expandFeeds_append_feed rest noFeed, rawLines_append_feed rest noFeed,
        List.map_cons, first]
      simpa using cut

theorem content_expandFeeds
    {line : Text}
    (single : line.IsLine)
    (noReturn : '\r' ∉ line) :
    (expandFeeds line).content = line.content := by
  rcases single.eq_or_isFullLine with noFeed | ⟨inner, noFeed, rfl⟩
  · rw [expandFeeds_of_not_mem noFeed]
  · have innerFree : '\r' ∉ inner :=
      fun member => noReturn (by simp [member])
    rw [expandFeeds_append_feed [] noFeed, expandFeeds_nil,
      content_append_return_feed, content_append_feed,
      dropFinal_eq_self (getLast?_ne_of_not_mem innerFree)]

theorem ofRawLine?_expandFeeds
    {line : Text}
    (single : line.IsLine)
    (noReturn : '\r' ∉ line) :
    Marker.ofRawLine? (expandFeeds line) = Marker.ofRawLine? line := by
  rw [Marker.ofRawLine?, Marker.ofRawLine?, content_expandFeeds single noReturn]

theorem isBlank_expandFeeds (text : Text) :
    (expandFeeds text).isBlank = text.isBlank := by
  induction text with
  | nil => rfl
  | cons char rest ih =>
      have step : expandFeeds (char :: rest) =
          expandFeeds [char] ++ expandFeeds rest :=
        expandFeeds_append [char] rest
      have first : (expandFeeds [char]).isBlank = isWhiteSpace char := by
        by_cases feed : char = '\n'
        · subst feed
          decide
        · simp [expandFeeds, feed, isBlank]
      rw [isBlank] at ih first ⊢
      rw [step, List.all_append, first, ih]
      rfl

/-- A full line gets one byte longer. -/
theorem IsFullLine.byteSize_expandFeeds
    {line : Text}
    (full : line.IsFullLine) :
    (expandFeeds line).byteSize = line.byteSize + 1 := by
  rcases full with ⟨inner, noFeed, rfl⟩
  have sizes : '\r'.utf8Size = 1 ∧ '\n'.utf8Size = 1 := by decide
  rw [expandFeeds_append_feed [] noFeed]
  simp [sizes, Nat.add_assoc]

theorem hasCrlf_expandFeeds
    {text : Text}
    (feed : '\n' ∈ text) :
    (expandFeeds text).hasCrlf = true := by
  rcases List.eq_append_cons_of_mem feed with ⟨inner, rest, rfl, noFeed⟩
  have full : IsFullLine (inner ++ ['\r', '\n']) :=
    ⟨inner ++ ['\r'], by simp [noFeed], by simp⟩
  have shape :
      expandFeeds (inner ++ '\n' :: rest) =
        (inner ++ ['\r', '\n']) ++ expandFeeds rest := by
    rw [expandFeeds_append_feed rest noFeed]
    simp
  rw [shape, full.isComplete.hasCrlf_append,
    hasCrlf_append_return_feed noFeed, Bool.true_or]

theorem hasCrlf_of_return_not_mem
    {text : Text}
    (noReturn : '\r' ∉ text) :
    text.hasCrlf = false := by
  fun_induction hasCrlf text with
  | case1 => rfl
  | case2 rest => simp at noReturn
  | case3 char rest _ ih =>
      exact ih fun member => noReturn (List.mem_cons_of_mem _ member)

end Text

/-! ## Expanded regions -/

namespace MarkedRegion

/-- A region with CRLF for every line feed. -/
def expand (region : MarkedRegion) : MarkedRegion :=
  { region with
    openingLine := region.openingLine.expandFeeds
    leadingPad := region.leadingPad.map Text.expandFeeds
    rawBody := region.rawBody.expandFeeds
    trailingPad := region.trailingPad.map Text.expandFeeds
    closingLine := region.closingLine.expandFeeds }

theorem expandFeeds_getD
    (pad : Option Text) :
    (pad.map Text.expandFeeds).getD [] = Text.expandFeeds (pad.getD []) := by
  cases pad <;> rfl

theorem render_expand
    (region : MarkedRegion) :
    region.expand.render = region.render.expandFeeds := by
  simp only [render, expand, Text.expandFeeds_append, expandFeeds_getD]

theorem takePad_expandFeeds
    (lines : List Text) :
    takePad (lines.map Text.expandFeeds) =
      ((takePad lines).1.map Text.expandFeeds,
        (takePad lines).2.map Text.expandFeeds) := by
  cases lines with
  | nil => rfl
  | cons first rest =>
      rw [List.map_cons, takePad, takePad, Text.isBlank_expandFeeds]
      split <;> rfl

theorem ofLines_expandFeeds
    (name : Text)
    (version : Option Text)
    (openingLine : Text)
    (inner : List Text)
    (closingLine : Text) :
    ofLines name version openingLine.expandFeeds
        (inner.map Text.expandFeeds) closingLine.expandFeeds =
      (ofLines name version openingLine inner closingLine).expand := by
  simp only [ofLines, takePad_expandFeeds, ← List.map_reverse, expand,
    Text.expandFeeds_flatten]

end MarkedRegion

/-- A fault, moved by one byte for each line in front of it. -/
def Malformed.expand (malformed : Malformed) : Malformed :=
  { malformed with
    span :=
      ⟨malformed.span.start + (malformed.line - 1),
        malformed.span.stop + (malformed.line - 1)⟩ }

namespace Document

/-! ## Expanded readings -/

/-- Marked regions and the texts behind them with CRLF for every line
feed. -/
def expandTail
    (tail : List (MarkedRegion × Text)) :
    List (MarkedRegion × Text) :=
  tail.map (Prod.map MarkedRegion.expand Text.expandFeeds)

@[simp]
theorem expandTail_nil : expandTail [] = [] :=
  rfl

@[simp]
theorem expandTail_cons
    (region : MarkedRegion)
    (text : Text)
    (rest : List (MarkedRegion × Text)) :
    expandTail ((region, text) :: rest) =
      (region.expand, text.expandFeeds) :: expandTail rest :=
  rfl

theorem layoutText_expand
    (lead : Text)
    (tail : List (MarkedRegion × Text)) :
    layoutText lead.expandFeeds (expandTail tail) =
      (layoutText lead tail).expandFeeds := by
  induction tail generalizing lead with
  | nil => rw [expandTail_nil, layoutText_nil, layoutText_nil]
  | cons entry rest ih =>
      rcases entry with ⟨region, text⟩
      rw [expandTail_cons, layoutText_cons, layoutText_cons, ih,
        MarkedRegion.render_expand, Text.expandFeeds_append,
        Text.expandFeeds_append]

/-- A place, moved by one byte for each line in front of it. -/
def Place.expand (place : Place) : Place :=
  ⟨place.line, place.offset + (place.line - 1)⟩

def Opening.expand (opened : Opening) : Opening :=
  { opened with
    line := opened.line.expandFeeds
    place := opened.place.expand
    inner := opened.inner.map Text.expandFeeds }

/-- The outcome of a reading in expanded form. -/
def expandOutcome : Except Malformed Layout → Except Malformed Layout
  | .ok (lead, tail) => .ok (lead.expandFeeds, expandTail tail)
  | .error malformed => .error malformed.expand

theorem expandOutcome_prepend
    (line : Text)
    (read : Except Malformed Layout) :
    expandOutcome (do
      let (text, regions) ← read
      return (line ++ text, regions)) = (do
        let (text, regions) ← expandOutcome read
        return (line.expandFeeds ++ text, regions)) := by
  cases read with
  | error malformed => rfl
  | ok layout =>
      rcases layout with ⟨text, regions⟩
      have lead : (line ++ text).expandFeeds =
          line.expandFeeds ++ text.expandFeeds :=
        Text.expandFeeds_append line text
      exact congrArg (fun lead => Except.ok (lead, _)) lead

theorem expandOutcome_region
    (region : MarkedRegion)
    (read : Except Malformed Layout) :
    expandOutcome (do
      let (text, regions) ← read
      return ([], (region, text) :: regions)) = (do
        let (text, regions) ← expandOutcome read
        return ([], (region.expand, text) :: regions)) := by
  cases read <;> rfl

theorem Place.next_expand
    {place : Place}
    (started : 0 < place.line)
    {line : Text}
    (full : line.IsFullLine) :
    place.expand.next line.expandFeeds = (place.next line).expand := by
  simp only [Place.expand, Place.next, Place.mk.injEq, true_and]
  rw [full.byteSize_expandFeeds]
  omega

theorem Place.malformed_expand
    (place : Place)
    {line : Text}
    (single : line.IsLine)
    (noReturn : '\r' ∉ line)
    (fault : MarkerFault) :
    place.expand.malformed line.expandFeeds fault =
      (place.malformed line fault).expand := by
  simp only [Place.expand, Place.malformed, Malformed.expand,
    Text.content_expandFeeds single noReturn, Malformed.mk.injEq,
    Span.mk.injEq, true_and, and_true]
  omega

theorem Opening.close_expand
    (opened : Opening)
    (line : Text) :
    opened.expand.close line.expandFeeds = (opened.close line).expand := by
  rw [close, close, ← MarkedRegion.ofLines_expandFeeds, List.map_reverse]
  rfl

/-- Where a reading ends, its place does not matter. -/
theorem readLines_nil_congr
    (opened : Option Opening)
    (place other : Place) :
    readLines opened place [] = readLines opened other [] := by
  cases opened <;> rfl

/-- The place behind a line, in front of lines that are expanded. -/
theorem readLines_next_expand
    (opened : Option Opening)
    {place : Place}
    (started : 0 < place.line)
    {line : Text}
    {rest : List Text}
    (full : rest ≠ [] → line.IsFullLine) :
    readLines opened (place.expand.next line.expandFeeds)
        (rest.map Text.expandFeeds) =
      readLines opened (place.next line).expand
        (rest.map Text.expandFeeds) := by
  cases rest with
  | nil => exact readLines_nil_congr opened _ _
  | cons next others => rw [Place.next_expand started (full (by simp))]

/-- The reader takes the same steps on expanded lines. -/
theorem readLines_expand
    {opened : Option Opening}
    (openedLine :
      ∀ found ∈ opened, found.line.IsLine ∧ '\r' ∉ found.line)
    {place : Place}
    (started : 0 < place.line)
    {lines : List Text}
    (areLines : Text.AreLines lines)
    (noReturn : ∀ line ∈ lines, '\r' ∉ line) :
    readLines (opened.map Opening.expand) place.expand
        (lines.map Text.expandFeeds) =
      expandOutcome (readLines opened place lines) := by
  induction lines generalizing opened place with
  | nil =>
      cases opened with
      | none => rfl
      | some opened =>
          rcases openedLine opened rfl with ⟨single, free⟩
          exact congrArg Except.error
            (Place.malformed_expand opened.place single free _)
  | cons line rest ih =>
      rcases areLines with ⟨single, full, below⟩
      rcases List.forall_mem_cons.mp noReturn with ⟨lineFree, restFree⟩
      have later (found : Option Opening)
          (foundLine :
            ∀ region ∈ found, region.line.IsLine ∧ '\r' ∉ region.line) :
          readLines (found.map Opening.expand)
              (place.expand.next line.expandFeeds)
              (rest.map Text.expandFeeds) =
            expandOutcome (readLines found (place.next line) rest) := by
        rw [readLines_next_expand _ started full]
        exact ih foundLine (Nat.succ_pos place.line) below restFree
      have kind := Text.ofRawLine?_expandFeeds single lineFree
      have fault := Place.malformed_expand place single lineFree
      rw [List.map_cons]
      cases marker : Marker.ofRawLine? line with
      | none =>
          rw [marker] at kind
          cases opened with
          | none =>
              simp only [Option.map_none, readLines, kind, marker]
              rw [expandOutcome_prepend, ← later none (by simp)]
              rfl
          | some opened =>
              simp only [Option.map_some, readLines, kind, marker]
              refine later (some (opened.push line)) ?_
              intro found same
              obtain rfl := Option.some.inj same
              exact openedLine opened rfl
      | some marked =>
          rw [marker] at kind
          cases opened with
          | none =>
              simp only [Option.map_none, readLines, kind, marker]
              cases marked with
              | opening name version =>
                  refine later (some ⟨name, version, line, place, []⟩) ?_
                  intro found same
                  obtain rfl := Option.some.inj same
                  exact ⟨single, lineFree⟩
              | closing name => exact congrArg Except.error (fault _)
          | some opened =>
              cases marked with
              | opening name version =>
                  simp only [Option.map_some, readLines, kind, marker]
                  exact congrArg Except.error (fault _)
              | closing name =>
                  simp only [Option.map_some, readLines, kind, marker]
                  by_cases same : name = opened.name
                  · have sameName : name = opened.expand.name := same
                    rw [if_pos same, if_pos sameName, expandOutcome_region,
                      ← later none (by simp), Opening.close_expand]
                    rfl
                  · have otherName : name ≠ opened.expand.name := same
                    rw [if_neg same, if_neg otherName]
                    exact congrArg Except.error (fault _)

/-- A document with CRLF for every line feed, read from such a text. -/
def expandedAs (document : Document) (text : Text) : Document :=
  { lead := document.lead.expandFeeds
    tail := expandTail document.tail
    lineEnding := .detect text.expandFeeds }

/-- Reading commutes with expanding the line feeds of a text. -/
theorem parse_expandFeeds
    {text : Text}
    (noReturn : '\r' ∉ text) :
    parse text.expandFeeds =
      match parse text with
      | .ok document => .ok (document.expandedAs text)
      | .error malformed => .error malformed.expand := by
  have lineFree : ∀ line ∈ text.rawLines, '\r' ∉ line := by
    intro line member inside
    apply noReturn
    rw [← Text.flatten_rawLines text]
    exact List.mem_flatten.mpr ⟨line, member, inside⟩
  have read :
      readLines none .start text.expandFeeds.rawLines =
        expandOutcome (readLines none .start text.rawLines) := by
    have noneOpened : ∀ found ∈ (none : Option Opening),
        found.line.IsLine ∧ '\r' ∉ found.line := by simp
    have started : 0 < Place.start.line := Nat.one_pos
    rw [Text.rawLines_expandFeeds]
    exact readLines_expand noneOpened started (Text.areLines_rawLines text)
      lineFree
  rw [parse, parse, read]
  cases readLines none .start text.rawLines <;> rfl

end Document

end RegionSync
