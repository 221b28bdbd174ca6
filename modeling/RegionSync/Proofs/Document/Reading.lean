import RegionSync.Document.Reading
import RegionSync.Proofs.Region.Padding

/-!
# What reading a document does

Reading goes line by line, in free text or in an open region.  The first part
says once what one line can do to a reading that succeeds, in either state;
whatever else is proved about documents that were read follows this case
split.

The main statement is that rendering undoes reading: the text of the regions
that were read, together with the lines that an open region has taken in, is
always the text that was consumed.
-/

namespace RegionSync.Document

/-! ## One line -/

@[simp]
theorem readLines_none_nil
    {place : Place}
    {lead : Text}
    {tail : List (MarkedRegion × Text)} :
    readLines none place [] = .ok (lead, tail) ↔ lead = [] ∧ tail = [] := by
  simp [readLines, eq_comm]

@[simp]
theorem readLines_some_nil
    {opened : Opening}
    {place : Place}
    {layout : Layout} :
    readLines (some opened) place [] ≠ .ok layout := by
  simp [readLines]

/-- In free text a line is text or opens a region. -/
theorem readLines_none_cons_eq_ok_iff
    {place : Place}
    {line : Text}
    {rest : List Text}
    {lead : Text}
    {tail : List (MarkedRegion × Text)} :
    readLines none place (line :: rest) = .ok (lead, tail) ↔
      (Marker.ofRawLine? line = none ∧
        ∃ text, lead = line ++ text ∧
          readLines none (place.next line) rest = .ok (text, tail)) ∨
      ∃ name version,
        Marker.ofRawLine? line = some (.opening name version) ∧
          readLines (some ⟨name, version, line, place, []⟩)
            (place.next line) rest = .ok (lead, tail) := by
  cases kind : Marker.ofRawLine? line with
  | none =>
      cases below : readLines none (place.next line) rest with
      | error fault =>
          simp [readLines, kind, below, bind, Except.bind]
      | ok layout =>
          rcases layout with ⟨text, regions⟩
          simp only [readLines, kind, below, bind, Except.bind, pure,
            Except.pure, Except.ok.injEq, Prod.mk.injEq]
          constructor
          · rintro ⟨rfl, rfl⟩
            exact Or.inl ⟨trivial, text, rfl, rfl, rfl⟩
          · rintro (⟨-, text, rfl, rfl, rfl⟩ | ⟨_, _, absurdity, -⟩)
            · exact ⟨rfl, rfl⟩
            · cases absurdity
  | some marker =>
      cases marker with
      | opening name version =>
          simp only [readLines, kind]
          constructor
          · intro below
            exact Or.inr ⟨name, version, rfl, below⟩
          · rintro (⟨absurdity, -⟩ | ⟨_, _, same, below⟩)
            · cases absurdity
            · cases same
              exact below
      | closing name => simp [readLines, kind]

/-- In an open region a line is one of its inner lines or closes it. -/
theorem readLines_some_cons_eq_ok_iff
    {opened : Opening}
    {place : Place}
    {line : Text}
    {rest : List Text}
    {lead : Text}
    {tail : List (MarkedRegion × Text)} :
    readLines (some opened) place (line :: rest) = .ok (lead, tail) ↔
      (Marker.ofRawLine? line = none ∧
        readLines (some (opened.push line)) (place.next line) rest =
          .ok (lead, tail)) ∨
      (Marker.ofRawLine? line = some (.closing opened.name) ∧
        lead = [] ∧
          ∃ text regions,
            tail = (opened.close line, text) :: regions ∧
              readLines none (place.next line) rest =
                .ok (text, regions)) := by
  cases kind : Marker.ofRawLine? line with
  | none => simp [readLines, kind]
  | some marker =>
      cases marker with
      | opening name version => simp [readLines, kind]
      | closing name =>
          by_cases same : name = opened.name
          · cases below : readLines none (place.next line) rest with
            | error fault =>
                simp [readLines, kind, same, below, bind, Except.bind]
            | ok layout =>
                rcases layout with ⟨text, regions⟩
                simp [readLines, kind, same, below, bind, Except.bind,
                  pure, Except.pure, eq_comm]
          · simp [readLines, kind, same]

/-- An open region takes in the lines up to the first marker, which closes
it. -/
theorem exists_closing_of_readLines
    {opened : Opening}
    {place : Place}
    {lines : List Text}
    {lead : Text}
    {tail : List (MarkedRegion × Text)}
    (read : readLines (some opened) place lines = .ok (lead, tail)) :
    ∃ taken closing behind text regions,
      lines = taken ++ closing :: behind ∧
        (∀ line ∈ taken, Marker.ofRawLine? line = none) ∧
        Marker.ofRawLine? closing = some (.closing opened.name) ∧
        tail =
          (MarkedRegion.ofLines opened.name opened.version opened.line
            (opened.inner.reverse ++ taken) closing, text) :: regions := by
  induction lines generalizing opened place with
  | nil => exact absurd read readLines_some_nil
  | cons line rest ih =>
      rcases readLines_some_cons_eq_ok_iff.mp read with
        ⟨kind, below⟩ | ⟨kind, -, text, regions, rfl, -⟩
      · rcases ih below with
          ⟨taken, closing, behind, text, regions, rfl, unmarked, marker, rfl⟩
        refine ⟨line :: taken, closing, behind, text, regions, rfl,
          List.forall_mem_cons.mpr ⟨kind, unmarked⟩, marker, ?_⟩
        simp [Opening.push]
      · refine ⟨[], line, rest, text, regions, rfl, by simp, kind, ?_⟩
        simp [Opening.close]

theorem parse_eq_ok_iff
    {text : Text}
    {document : Document} :
    parse text = .ok document ↔
      readLines none .start text.rawLines =
          .ok (document.lead, document.tail) ∧
        document.lineEnding = .detect text := by
  cases below : readLines none .start text.rawLines with
  | error fault => simp [parse, below, bind, Except.bind]
  | ok layout =>
      rcases layout with ⟨lead, tail⟩
      rcases document with ⟨_, _, _⟩
      simp [parse, below, bind, Except.bind, pure, Except.pure,
        and_assoc, eq_comm]

/-! ## Rendering undoes reading -/

/-- The text of free text and of the marked regions behind it. -/
def layoutText (lead : Text) (tail : List (MarkedRegion × Text)) : Text :=
  lead ++ tail.flatMap (fun (region, text) => region.render ++ text)

@[simp]
theorem layoutText_nil (lead : Text) : layoutText lead [] = lead := by
  simp [layoutText]

@[simp]
theorem layoutText_cons
    (lead : Text)
    (region : MarkedRegion)
    (text : Text)
    (rest : List (MarkedRegion × Text)) :
    layoutText lead ((region, text) :: rest) =
      lead ++ (region.render ++ layoutText text rest) := by
  simp [layoutText, List.append_assoc]

theorem layoutText_append
    (first lead : Text)
    (tail : List (MarkedRegion × Text)) :
    layoutText (first ++ lead) tail = first ++ layoutText lead tail := by
  simp [layoutText, List.append_assoc]

theorem render_eq_layoutText (document : Document) :
    document.render = layoutText document.lead document.tail :=
  rfl

/-- The raw lines that an open region has taken in. -/
def Opening.text (opened : Opening) : Text :=
  opened.line ++ opened.inner.reverse.flatten

theorem Opening.text_push
    (opened : Opening)
    (line : Text) :
    (opened.push line).text = opened.text ++ line := by
  simp [Opening.text, Opening.push, List.append_assoc]

theorem Opening.render_close
    (opened : Opening)
    (line : Text) :
    (opened.close line).render = opened.text ++ line :=
  MarkedRegion.render_ofLines ..

/-- What was read, with what the open region holds, is what was consumed. -/
theorem layoutText_of_readLines
    {opened : Option Opening}
    {place : Place}
    {lines : List Text}
    {lead : Text}
    {tail : List (MarkedRegion × Text)}
    (read : readLines opened place lines = .ok (lead, tail)) :
    layoutText lead tail =
      opened.elim [] Opening.text ++ lines.flatten := by
  induction lines generalizing opened place lead tail with
  | nil =>
      cases opened with
      | none =>
          rcases readLines_none_nil.mp read with ⟨rfl, rfl⟩
          rfl
      | some opened => exact absurd read readLines_some_nil
  | cons line rest ih =>
      cases opened with
      | none =>
          rcases readLines_none_cons_eq_ok_iff.mp read with
            ⟨-, text, rfl, below⟩ | ⟨name, version, -, below⟩
          · rw [layoutText_append, ih below]
            simp
          · rw [ih below]
            simp [Opening.text]
      | some opened =>
          rcases readLines_some_cons_eq_ok_iff.mp read with
            ⟨-, below⟩ | ⟨-, rfl, text, regions, rfl, below⟩
          · rw [ih below]
            simp [Opening.text_push, List.append_assoc]
          · rw [layoutText_cons, ih below, Opening.render_close]
            simp [List.append_assoc]

theorem layoutText_of_parse
    {text : Text}
    {document : Document}
    (read : parse text = .ok document) :
    layoutText document.lead document.tail = text := by
  rcases parse_eq_ok_iff.mp read with ⟨below, -⟩
  rw [layoutText_of_readLines below]
  simp

/-- Rendering a document gives the text it was read from. -/
theorem render_parse
    {text : Text}
    {document : Document}
    (read : parse text = .ok document) :
    document.render = text := by
  rw [render_eq_layoutText, layoutText_of_parse read]

/-- All three kinds of breaks in one text, and none at its end. -/
theorem render_parse_mixed_breaks :
    ∃ document,
      parse
          ("one\r\ntwo\n<!-- BEGIN: a v1 -->\n \n\rbody\r\r\n\n"
            ++ "<!-- END: a -->\r\nthree\r").toList = .ok document ∧
        document.render =
          ("one\r\ntwo\n<!-- BEGIN: a v1 -->\n \n\rbody\r\r\n\n"
            ++ "<!-- END: a -->\r\nthree\r").toList :=
  ⟨_, rfl, render_parse rfl⟩

end RegionSync.Document
