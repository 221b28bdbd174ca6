import RegionSync.Proofs.Document.Reading
import RegionSync.Proofs.Text.RawLine

/-!
# Layouts that read back

`MarkedRegion.IsFramed` says that a region consists of whole lines, that its
marker lines are markers for it and that its padding is blank.  A region is
readable if moreover no line of its body is a marker, so that the reader takes
every part for what it is.  `MarkedRegion.IsCanonical` says in addition that
the padding is greedy.  `IsLaidOut` puts such regions and plain free texts
into a document, where every part that something follows ends at a line feed.

The two main statements meet at these notions.  A layout of readable regions
reads back as itself, up to blank lines that move from the body to the
padding.  And whatever is read from a text is laid out canonically.
-/

namespace RegionSync

/-! ## Plain texts -/

/-- A text without a marker line. -/
def Text.IsPlain (text : Text) : Prop :=
  ∀ line ∈ text.rawLines, line.isMarkerLine = false

/-- A blank line with its line feed. -/
structure Text.IsPad (line : Text) : Prop where
  full : line.IsFullLine
  blank : line.isBlank
  unmarked : line.isMarkerLine = false

namespace Text

theorem isMarkerLine_eq_false_iff
    {line : Text} :
    line.isMarkerLine = false ↔ Marker.ofRawLine? line = none := by
  simp [isMarkerLine]

theorem IsPlain.ofRawLine?_eq_none
    {text : Text}
    (plain : text.IsPlain) :
    ∀ line ∈ text.rawLines, Marker.ofRawLine? line = none :=
  fun line member => isMarkerLine_eq_false_iff.mp (plain line member)

@[simp]
theorem isPlain_nil : IsPlain [] := by
  simp [IsPlain]

theorem IsFullLine.isPlain_append
    {line rest : Text}
    (full : line.IsFullLine)
    (unmarked : line.isMarkerLine = false)
    (plain : rest.IsPlain) :
    (line ++ rest).IsPlain := by
  intro other member
  rw [full.rawLines_append] at member
  rcases List.mem_cons.mp member with rfl | below
  · exact unmarked
  · exact plain other below

theorem IsLine.isPlain
    {line : Text}
    (single : line.IsLine)
    (unmarked : line.isMarkerLine = false) :
    line.IsPlain := by
  intro other member
  rw [single] at member
  rw [List.mem_singleton.mp member]
  exact unmarked

theorem isPlain_flatten
    {lines : List Text}
    (full : ∀ line ∈ lines, line.IsFullLine)
    (unmarked : ∀ line ∈ lines, line.isMarkerLine = false) :
    IsPlain lines.flatten := by
  intro line member
  rw [rawLines_flatten full] at member
  exact unmarked line member

end Text

/-! ## Regions -/

namespace MarkedRegion

/-- The raw lines behind the leading padding of a region. -/
def linesBehindPad (region : MarkedRegion) : List Text :=
  region.rawBody.rawLines ++ region.trailingPad.toList

/-- The raw lines between the marker lines of a region. -/
def innerLines (region : MarkedRegion) : List Text :=
  region.leadingPad.toList ++ region.linesBehindPad

/-- A region of whole lines whose markers and padding are what they claim to
be.  The body may hold marker lines. -/
structure IsFramed (region : MarkedRegion) : Prop where
  opening_full : region.openingLine.IsFullLine
  opening_marker :
    Marker.ofRawLine? region.openingLine =
      some (.opening region.name region.version)
  leading_isPad : ∀ pad ∈ region.leadingPad, pad.IsPad
  body_complete : region.rawBody.IsComplete
  trailing_isPad : ∀ pad ∈ region.trailingPad, pad.IsPad
  closing_isLine : region.closingLine.IsLine
  closing_marker :
    Marker.ofRawLine? region.closingLine = some (.closing region.name)

/-- A region whose parts the reader takes for what they are. -/
structure IsReadable (region : MarkedRegion) : Prop
    extends IsFramed region where
  body_plain : region.rawBody.IsPlain

/-- A readable region without a blank line that could be padding and is
not. -/
structure IsCanonical (region : MarkedRegion) : Prop
    extends IsReadable region where
  leading_greedy :
    region.leadingPad = none →
      ∀ first ∈ region.innerLines.head?, first.isBlank = false
  trailing_greedy :
    region.trailingPad = none →
      ∀ last ∈ region.linesBehindPad.getLast?, last.isBlank = false

/-- The region that is read where this one was written. -/
def settle (region : MarkedRegion) : MarkedRegion :=
  ofLines region.name region.version region.openingLine region.innerLines
    region.closingLine

theorem IsCanonical.isGreedy
    {region : MarkedRegion}
    (canonical : region.IsCanonical) :
    IsGreedy region.leadingPad region.rawBody.rawLines
      region.trailingPad where
  leading_blank pad member := (canonical.leading_isPad pad member).blank
  trailing_blank pad member := (canonical.trailing_isPad pad member).blank
  leading_greedy absent := by
    simpa [innerLines, linesBehindPad, absent] using
      canonical.leading_greedy absent
  trailing_greedy := canonical.trailing_greedy

/-- A region with a greedy cut is read as it was written. -/
theorem settle_eq_of_isGreedy
    {region : MarkedRegion}
    (greedy :
      IsGreedy region.leadingPad region.rawBody.rawLines
        region.trailingPad) :
    region.settle = region := by
  rw [settle, innerLines, linesBehindPad, greedy.ofLines_eq,
    Text.flatten_rawLines]

theorem IsCanonical.settle_eq
    {region : MarkedRegion}
    (canonical : region.IsCanonical) :
    region.settle = region :=
  settle_eq_of_isGreedy canonical.isGreedy

/-- Inner lines without markers between two markers make a canonical
region. -/
theorem isCanonical_ofLines
    {name : Text}
    {version : Option Text}
    {openingLine closingLine : Text}
    {inner : List Text}
    (openingFull : openingLine.IsFullLine)
    (openingMarker :
      Marker.ofRawLine? openingLine = some (.opening name version))
    (full : ∀ line ∈ inner, line.IsFullLine)
    (unmarked : ∀ line ∈ inner, line.isMarkerLine = false)
    (closingSingle : closingLine.IsLine)
    (closingMarker :
      Marker.ofRawLine? closingLine = some (.closing name)) :
    (ofLines name version openingLine inner closingLine).IsCanonical := by
  rcases exists_isGreedy inner with ⟨leading, body, trailing, greedy, rfl⟩
  rw [greedy.ofLines_eq]
  have leadingPads : ∀ pad ∈ leading, pad.IsPad := by
    intro pad member
    have inner : pad ∈ leading.toList ++ (body ++ trailing.toList) := by
      simp [Option.mem_def.mp member]
    exact ⟨full pad inner, greedy.leading_blank pad member,
      unmarked pad inner⟩
  have trailingPads : ∀ pad ∈ trailing, pad.IsPad := by
    intro pad member
    have inner : pad ∈ leading.toList ++ (body ++ trailing.toList) := by
      simp [Option.mem_def.mp member]
    exact ⟨full pad inner, greedy.trailing_blank pad member,
      unmarked pad inner⟩
  have bodyFull : ∀ line ∈ body, line.IsFullLine :=
    fun line member => full line (by simp [member])
  have bodyUnmarked : ∀ line ∈ body, line.isMarkerLine = false :=
    fun line member => unmarked line (by simp [member])
  have cut : Text.rawLines body.flatten = body :=
    Text.rawLines_flatten bodyFull
  exact
    { opening_full := openingFull
      opening_marker := openingMarker
      leading_isPad := leadingPads
      body_complete := Text.isComplete_flatten bodyFull
      body_plain := Text.isPlain_flatten bodyFull bodyUnmarked
      trailing_isPad := trailingPads
      closing_isLine := closingSingle
      closing_marker := closingMarker
      leading_greedy := by
        intro absent
        have none_leading : leading = none := absent
        simp only [innerLines, linesBehindPad, cut, none_leading,
          Option.toList_none, List.nil_append]
        exact greedy.leading_greedy none_leading
      trailing_greedy := by
        simp only [linesBehindPad, cut]
        exact greedy.trailing_greedy }

/-! ### The lines of a region -/

/-- Settling moves lines between the parts of a region and changes none. -/
theorem settle_render
    (region : MarkedRegion) :
    region.settle.render = region.render := by
  rw [settle, render_ofLines, innerLines, linesBehindPad, render]
  simp [flatten_toList, Text.flatten_rawLines, List.append_assoc]

theorem isComplete_getD
    {pad : Option Text}
    (isPad : ∀ line ∈ pad, line.IsPad) :
    Text.IsComplete (pad.getD []) := by
  cases pad with
  | none => exact Text.isComplete_nil
  | some line => exact (isPad line rfl).full.isComplete

theorem rawLines_getD
    {pad : Option Text}
    (isPad : ∀ line ∈ pad, line.IsPad) :
    Text.rawLines (pad.getD []) = pad.toList := by
  cases pad with
  | none => rfl
  | some line => exact (isPad line rfl).full.isLine

theorem IsFramed.rawLines_render_append
    {region : MarkedRegion}
    (framed : region.IsFramed)
    (more : Text) :
    (region.render ++ more).rawLines =
      region.openingLine ::
        (region.innerLines ++ (region.closingLine ++ more).rawLines) := by
  have leadingComplete := isComplete_getD framed.leading_isPad
  have trailingComplete := isComplete_getD framed.trailing_isPad
  simp only [render, List.append_assoc]
  rw [framed.opening_full.rawLines_append,
    leadingComplete.rawLines_append,
    framed.body_complete.rawLines_append,
    trailingComplete.rawLines_append,
    rawLines_getD framed.leading_isPad,
    rawLines_getD framed.trailing_isPad]
  simp [innerLines, linesBehindPad, List.append_assoc]

theorem IsReadable.innerLines_unmarked
    {region : MarkedRegion}
    (readable : region.IsReadable) :
    ∀ line ∈ region.innerLines, Marker.ofRawLine? line = none := by
  intro line member
  apply Text.isMarkerLine_eq_false_iff.mp
  simp only [innerLines, linesBehindPad, List.mem_append,
    Option.mem_toList] at member
  rcases member with leading | body | trailing
  · exact (readable.leading_isPad line leading).unmarked
  · exact readable.body_plain line body
  · exact (readable.trailing_isPad line trailing).unmarked

end MarkedRegion

namespace Document

/-! ## Layouts -/

/-- Plain free texts and marked regions of one kind, each part complete that
something follows. -/
inductive IsLaidOut (kind : MarkedRegion → Prop) :
    Text → List (MarkedRegion × Text) → Prop where
  | last
      {lead : Text}
      (plain : lead.IsPlain) :
      IsLaidOut kind lead []
  | next
      {lead text : Text}
      {region : MarkedRegion}
      {rest : List (MarkedRegion × Text)}
      (plain : lead.IsPlain)
      (complete : lead.IsComplete)
      (sound : kind region)
      (ended :
        region.closingLine.IsFullLine ∨ text = [] ∧ rest = [])
      (below : IsLaidOut kind text rest) :
      IsLaidOut kind lead ((region, text) :: rest)

theorem IsLaidOut.imp
    {kind other : MarkedRegion → Prop}
    (weaker : ∀ region, kind region → other region)
    {lead : Text}
    {tail : List (MarkedRegion × Text)}
    (laid : IsLaidOut kind lead tail) :
    IsLaidOut other lead tail := by
  induction laid with
  | last plain => exact .last plain
  | next plain complete sound ended _ ih =>
      exact .next plain complete (weaker _ sound) ended ih

theorem IsLaidOut.sound
    {kind : MarkedRegion → Prop}
    {lead : Text}
    {tail : List (MarkedRegion × Text)}
    (laid : IsLaidOut kind lead tail) :
    ∀ entry ∈ tail, kind entry.1 := by
  induction laid with
  | last _ => simp
  | next _ _ sound _ _ ih =>
      intro entry member
      rcases List.mem_cons.mp member with rfl | below
      · exact sound
      · exact ih entry below

theorem IsLaidOut.append_line
    {kind : MarkedRegion → Prop}
    {line lead : Text}
    {tail : List (MarkedRegion × Text)}
    (full : line.IsFullLine)
    (unmarked : line.isMarkerLine = false)
    (laid : IsLaidOut kind lead tail) :
    IsLaidOut kind (line ++ lead) tail := by
  cases laid with
  | last plain => exact .last (full.isPlain_append unmarked plain)
  | next plain complete sound ended below =>
      exact .next (full.isPlain_append unmarked plain)
        (full.isComplete.append complete) sound ended below

/-! ## Reading what was laid out -/

/-- The place behind some raw lines. -/
def Place.after (place : Place) (lines : List Text) : Place :=
  lines.foldl Place.next place

@[simp]
theorem Place.after_nil (place : Place) : place.after [] = place :=
  rfl

@[simp]
theorem Place.after_cons
    (place : Place)
    (line : Text)
    (rest : List Text) :
    place.after (line :: rest) = (place.next line).after rest :=
  rfl

/-- Free text in front of a layout. -/
def prependText (text : Text) (layout : Layout) : Layout :=
  (text ++ layout.1, layout.2)

theorem readLines_none_append
    {lines : List Text}
    (unmarked : ∀ line ∈ lines, Marker.ofRawLine? line = none)
    (place : Place)
    (rest : List Text) :
    readLines none place (lines ++ rest) =
      (readLines none (place.after lines) rest).map
        (prependText lines.flatten) := by
  induction lines generalizing place with
  | nil =>
      cases read : readLines none place rest <;>
        simp [prependText, read, Except.map]
  | cons line lines ih =>
      have kind := unmarked line (by simp)
      have below :=
        ih (fun other member => unmarked other (by simp [member]))
          (place.next line)
      cases read : readLines none (place.after (line :: lines)) rest <;>
        simp_all [readLines, prependText, Except.map, bind, Except.bind,
          pure, Except.pure, List.append_assoc]

theorem readLines_some_append
    {lines : List Text}
    (unmarked : ∀ line ∈ lines, Marker.ofRawLine? line = none)
    (opened : Opening)
    (place : Place)
    (rest : List Text) :
    readLines (some opened) place (lines ++ rest) =
      readLines
        (some { opened with inner := lines.reverse ++ opened.inner })
        (place.after lines) rest := by
  induction lines generalizing opened place with
  | nil => rfl
  | cons line lines ih =>
      have kind := unmarked line (by simp)
      have below :=
        ih (fun other member => unmarked other (by simp [member]))
          (opened.push line) (place.next line)
      rw [List.cons_append, readLines, kind]
      simpa [Opening.push, List.append_assoc] using below

theorem rawLines_closing_append
    {region : MarkedRegion}
    {text : Text}
    {rest : List (MarkedRegion × Text)}
    (single : region.closingLine.IsLine)
    (ended : region.closingLine.IsFullLine ∨ text = [] ∧ rest = []) :
    Text.rawLines (region.closingLine ++ layoutText text rest) =
      region.closingLine :: (layoutText text rest).rawLines := by
  rcases ended with full | ⟨rfl, rfl⟩
  · exact full.rawLines_append _
  · have cut : region.closingLine.rawLines = [region.closingLine] := single
    simpa using cut

/-- Free text and the opening line of a framed region are read. -/
theorem readLines_layoutText_opening
    {lead text : Text}
    {region : MarkedRegion}
    {rest : List (MarkedRegion × Text)}
    (plain : lead.IsPlain)
    (complete : lead.IsComplete)
    (framed : region.IsFramed)
    (ended : region.closingLine.IsFullLine ∨ text = [] ∧ rest = [])
    (place : Place) :
    readLines none place (layoutText lead ((region, text) :: rest)).rawLines =
      (readLines
        (some ⟨region.name, region.version, region.openingLine,
          place.after lead.rawLines, []⟩)
        ((place.after lead.rawLines).next region.openingLine)
        (region.innerLines ++
          region.closingLine :: (layoutText text rest).rawLines)).map
        (prependText lead) := by
  rw [layoutText_cons, complete.rawLines_append,
    framed.rawLines_render_append,
    rawLines_closing_append framed.closing_isLine ended,
    readLines_none_append plain.ofRawLine?_eq_none, Text.flatten_rawLines]
  simp only [readLines, framed.opening_marker]

/-- A readable region in front of other regions is read as it settles. -/
theorem readLines_layoutText_cons
    {lead text : Text}
    {region : MarkedRegion}
    {rest : List (MarkedRegion × Text)}
    (plain : lead.IsPlain)
    (complete : lead.IsComplete)
    (readable : region.IsReadable)
    (ended : region.closingLine.IsFullLine ∨ text = [] ∧ rest = [])
    (place : Place) :
    ∃ next,
      readLines none place
          (layoutText lead ((region, text) :: rest)).rawLines =
        (readLines none next (layoutText text rest).rawLines).map
          fun layout => (lead, (region.settle, layout.1) :: layout.2) := by
  have read :=
    readLines_layoutText_opening plain complete readable.toIsFramed ended
      place
  rw [readLines_some_append readable.innerLines_unmarked, readLines,
    readable.closing_marker] at read
  simp only [if_true] at read
  -- What follows the closing line is read in free text again.
  let inside := (place.after lead.rawLines).next region.openingLine
  let behind := (inside.after region.innerLines).next region.closingLine
  refine ⟨behind, read.trans ?_⟩
  cases readLines none behind (layoutText text rest).rawLines with
  | error fault => rfl
  | ok layout =>
      simp [Except.map, bind, Except.bind, pure, Except.pure, prependText,
        Opening.close, MarkedRegion.settle]

/-- A layout of readable regions reads back, each region as it settles. -/
theorem readLines_layoutText
    {lead : Text}
    {tail : List (MarkedRegion × Text)}
    (laid : IsLaidOut MarkedRegion.IsReadable lead tail)
    (place : Place) :
    readLines none place (layoutText lead tail).rawLines =
      .ok (lead, tail.map fun (region, text) => (region.settle, text)) := by
  induction laid generalizing place with
  | @last lead plain =>
      have read := readLines_none_append plain.ofRawLine?_eq_none place []
      simpa [readLines, prependText, Except.map] using read
  | next plain complete sound ended _ ih =>
      rcases readLines_layoutText_cons plain complete sound ended place with
        ⟨next, read⟩
      rw [read, ih next]
      rfl

/-! ## What was read is laid out -/

/-- An open region that holds full plain lines behind a full opening line. -/
structure Opening.IsSound (opened : Opening) : Prop where
  full : opened.line.IsFullLine
  marker :
    Marker.ofRawLine? opened.line =
      some (.opening opened.name opened.version)
  inner_full : ∀ line ∈ opened.inner, line.IsFullLine
  inner_unmarked : ∀ line ∈ opened.inner, line.isMarkerLine = false

theorem Opening.IsSound.push
    {opened : Opening}
    (sound : opened.IsSound)
    {line : Text}
    (full : line.IsFullLine)
    (unmarked : line.isMarkerLine = false) :
    (opened.push line).IsSound where
  full := sound.full
  marker := sound.marker
  inner_full := List.forall_mem_cons.mpr ⟨full, sound.inner_full⟩
  inner_unmarked :=
    List.forall_mem_cons.mpr ⟨unmarked, sound.inner_unmarked⟩

theorem Opening.IsSound.close
    {opened : Opening}
    (sound : opened.IsSound)
    {line : Text}
    (single : line.IsLine)
    (marker :
      Marker.ofRawLine? line = some (.closing opened.name)) :
    (opened.close line).IsCanonical :=
  MarkedRegion.isCanonical_ofLines sound.full sound.marker
    (fun other member => sound.inner_full other (by simpa using member))
    (fun other member => sound.inner_unmarked other (by simpa using member))
    single marker

theorem ne_nil_of_readLines_some
    {opened : Opening}
    {place : Place}
    {lines : List Text}
    {layout : Layout}
    (read : readLines (some opened) place lines = .ok layout) :
    lines ≠ [] := by
  rintro rfl
  exact readLines_some_nil read

/-- Whatever is read from the raw lines of a text is laid out canonically. -/
theorem isLaidOut_of_readLines
    {opened : Option Opening}
    {place : Place}
    {lines : List Text}
    {lead : Text}
    {tail : List (MarkedRegion × Text)}
    (sound : ∀ found ∈ opened, found.IsSound)
    (cut : Text.AreLines lines)
    (read : readLines opened place lines = .ok (lead, tail)) :
    IsLaidOut MarkedRegion.IsCanonical lead tail := by
  induction lines generalizing opened place lead tail with
  | nil =>
      cases opened with
      | none =>
          rcases readLines_none_nil.mp read with ⟨rfl, rfl⟩
          exact .last Text.isPlain_nil
      | some opened => exact absurd read readLines_some_nil
  | cons line rest ih =>
      rcases cut with ⟨single, full, cutBelow⟩
      cases opened with
      | none =>
          rcases readLines_none_cons_eq_ok_iff.mp read with
            ⟨kind, text, rfl, below⟩ | ⟨name, version, kind, below⟩
          · have unmarked := Text.isMarkerLine_eq_false_iff.mpr kind
            by_cases more : rest = []
            · subst more
              rcases readLines_none_nil.mp below with ⟨rfl, rfl⟩
              rw [List.append_nil]
              exact .last (single.isPlain unmarked)
            · exact (ih (by simp) cutBelow below).append_line (full more)
                unmarked
          · have more := ne_nil_of_readLines_some below
            have start : ∀ found ∈
                some (Opening.mk name version line place []),
                found.IsSound := by
              intro found member
              obtain rfl := Option.some.inj member
              exact ⟨full more, kind, by simp, by simp⟩
            exact ih start cutBelow below
      | some opened =>
          have sound := sound opened rfl
          rcases readLines_some_cons_eq_ok_iff.mp read with
            ⟨kind, below⟩ | ⟨kind, rfl, text, regions, rfl, below⟩
          · have more := ne_nil_of_readLines_some below
            have unmarked := Text.isMarkerLine_eq_false_iff.mpr kind
            have pushed : ∀ found ∈ some (opened.push line),
                found.IsSound := by
              intro found member
              obtain rfl := Option.some.inj member
              exact sound.push (full more) unmarked
            exact ih pushed cutBelow below
          · have laid := ih (by simp) cutBelow below
            have ended :
                (opened.close line).closingLine.IsFullLine ∨
                  text = [] ∧ regions = [] := by
              by_cases more : rest = []
              · subst more
                exact Or.inr (readLines_none_nil.mp below)
              · exact Or.inl (full more)
            exact .next Text.isPlain_nil Text.isComplete_nil
              (sound.close single kind) ended laid

/-! ## Whole documents -/

theorem isLaidOut_of_parse
    {text : Text}
    {document : Document}
    (read : parse text = .ok document) :
    IsLaidOut MarkedRegion.IsCanonical document.lead document.tail := by
  rcases parse_eq_ok_iff.mp read with ⟨below, -⟩
  exact isLaidOut_of_readLines (by simp) (Text.areLines_rawLines text) below

theorem parse_layoutText
    {lead : Text}
    {tail : List (MarkedRegion × Text)}
    (laid : IsLaidOut MarkedRegion.IsReadable lead tail) :
    parse (layoutText lead tail) =
      .ok
        { lead
          tail := tail.map fun (region, text) => (region.settle, text)
          lineEnding := .detect (layoutText lead tail) } :=
  parse_eq_ok_iff.mpr ⟨readLines_layoutText laid .start, rfl⟩

theorem map_settle_of_isCanonical
    {lead : Text}
    {tail : List (MarkedRegion × Text)}
    (laid : IsLaidOut MarkedRegion.IsCanonical lead tail) :
    tail.map (fun (region, text) => (region.settle, text)) = tail := by
  have same : ∀ entry ∈ tail, (entry.1.settle, entry.2) = entry := by
    intro entry member
    rw [(laid.sound entry member).settle_eq]
  exact (List.map_congr_left same).trans (List.map_id tail)

end Document

end RegionSync
