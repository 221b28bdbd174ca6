import RegionSync.Proofs.Marker.Pattern
import RegionSync.Proofs.Marker.Printing
import RegionSync.Region

/-!
# Recognizing what regions print

The grammar of marker lines can be written as two patterns, one for each
marker, whose groups hold the name and the version.  `find?` searches a line
with them and `ofLine?` cuts it up from both ends, and the two find the same
marker in every line (`find?_eq_ofLine?`).  Names and versions may hold the
letter of the version mark or the end of a comment; since they hold no white
space, each pattern is definite all the same.

A region prints its marker lines whatever its name and version are.  The main
statement, `printing_and_recognition`, says when such a line is recognized and
that nothing else is.
-/

namespace RegionSync.Marker

/-! ## The grammar as patterns -/

/-- ` v` and a version, unless both are absent. -/
def versionPattern : Pattern :=
  .optional (.behind (.exactly versionMark) .solid)

/-- `<!-- BEGIN: `, a name, perhaps a version, and ` -->`. -/
def openingPattern : Pattern :=
  .behind (.exactly openingHead)
    (.behind .solid (.behind versionPattern (.exactly tail)))

/-- `<!-- END: `, a name and ` -->`. -/
def closingPattern : Pattern :=
  .behind (.exactly closingHead) (.behind .solid (.exactly tail))

/-- The marker that the patterns find in a line, the opening one first. -/
def find? (line : Text) : Option Marker :=
  match openingPattern.captures? line with
  | some [some name, version] => some (opening name version)
  | some _ => none
  | none =>
      match closingPattern.captures? line with
      | some [some name] => some (closing name)
      | _ => none

/-- What an opening marker prints between its name and its tail. -/
def versionPart : Option Text → Text
  | none => []
  | some version => versionMark ++ version

theorem print_opening_versionPart
    (name : Text)
    (version : Option Text) :
    print (opening name version) =
      openingHead ++ (name ++ (versionPart version ++ tail)) := by
  cases version <;> simp [print, versionPart]

theorem mem_ways_versionPattern_iff
    {held : List (Option Text)}
    {text rest : Text} :
    (held, rest) ∈ versionPattern.ways text ↔
      ∃ version : Option Text,
        held = [version] ∧ (∀ token ∈ version, Text.isToken token) ∧
          text = versionPart version ++ rest := by
  rw [versionPattern, Pattern.mem_ways_optional_iff,
    Pattern.mem_ways_exactly_behind_iff]
  constructor
  · rintro (⟨below, rfl, matched⟩ | ⟨rfl, rfl⟩)
    · rcases Pattern.mem_ways_solid_iff.mp matched with
        ⟨version, token, rfl, rfl⟩
      exact ⟨some version, rfl, by simpa using token, by simp [versionPart]⟩
    · exact ⟨none, rfl, by simp, rfl⟩
  · rintro ⟨version, rfl, token, rfl⟩
    cases version with
    | none => exact Or.inr ⟨rfl, rfl⟩
    | some version =>
        left
        refine ⟨version ++ rest, by simp [versionPart], ?_⟩
        exact Pattern.mem_ways_solid_iff.mpr
          ⟨version, token version rfl, rfl, rfl⟩

theorem mem_ways_openingPattern_iff
    {held : List (Option Text)}
    {line : Text} :
    (held, []) ∈ openingPattern.ways line ↔
      ∃ name version,
        held = [some name, version] ∧
          (opening name version).IsPrintable ∧
          line = print (opening name version) := by
  rw [openingPattern, Pattern.mem_ways_exactly_behind_iff]
  constructor
  · rintro ⟨below, rfl, matched⟩
    rcases Pattern.mem_ways_solid_behind_iff.mp matched with
      ⟨name, behind, after, nameToken, rfl, behindName, rfl⟩
    rcases Pattern.mem_ways_behind_iff.mp behindName with
      ⟨part, last, nothing, versionMatched, ended, rfl⟩
    rcases mem_ways_versionPattern_iff.mp versionMatched with
      ⟨version, rfl, versionToken, rfl⟩
    rcases Pattern.mem_ways_exactly_iff.mp ended with ⟨rfl, rfl⟩
    refine ⟨name, version, rfl, ⟨nameToken, versionToken⟩, ?_⟩
    rw [print_opening_versionPart, List.append_nil]
  · rintro ⟨name, version, rfl, ⟨nameToken, versionToken⟩, rfl⟩
    have ended : ([], []) ∈ (Pattern.exactly tail).ways tail :=
      Pattern.mem_ways_exactly_iff.mpr ⟨rfl, by simp⟩
    have matched :
        ([version], tail) ∈ versionPattern.ways (versionPart version ++ tail) :=
      mem_ways_versionPattern_iff.mpr ⟨version, rfl, versionToken, rfl⟩
    refine ⟨_, print_opening_versionPart name version, ?_⟩
    refine Pattern.mem_ways_solid_behind_iff.mpr
      ⟨name, _, [version], nameToken, rfl, ?_, rfl⟩
    exact Pattern.mem_ways_behind_iff.mpr
      ⟨[version], tail, [], matched, ended, rfl⟩

theorem mem_ways_closingPattern_iff
    {held : List (Option Text)}
    {line : Text} :
    (held, []) ∈ closingPattern.ways line ↔
      ∃ name,
        held = [some name] ∧
          (closing name).IsPrintable ∧ line = print (closing name) := by
  rw [closingPattern, Pattern.mem_ways_exactly_behind_iff]
  constructor
  · rintro ⟨below, rfl, matched⟩
    rcases Pattern.mem_ways_solid_behind_iff.mp matched with
      ⟨name, behind, after, token, rfl, ended, rfl⟩
    rcases Pattern.mem_ways_exactly_iff.mp ended with ⟨rfl, rfl⟩
    refine ⟨name, rfl, token, ?_⟩
    rw [print_closing, List.append_nil]
  · rintro ⟨name, rfl, token, rfl⟩
    have ended : ([], []) ∈ (Pattern.exactly tail).ways tail :=
      Pattern.mem_ways_exactly_iff.mpr ⟨rfl, by simp⟩
    refine ⟨_, print_closing name, ?_⟩
    exact Pattern.mem_ways_solid_behind_iff.mpr
      ⟨name, tail, [], token, rfl, ended, rfl⟩

/-! ## One marker for a line -/

theorem eq_of_print_eq
    {marker other : Marker}
    (printable : marker.IsPrintable)
    (otherPrintable : other.IsPrintable)
    (same : marker.print = other.print) :
    marker = other := by
  apply Option.some.inj
  rw [← ofLine?_print printable, same, ofLine?_print otherPrintable]

/-- The heads alone keep the two kinds of markers apart, whatever stands
behind them. -/
theorem print_opening_ne_print_closing
    (name : Text)
    (version : Option Text)
    (other : Text) :
    print (opening name version) ≠ print (closing other) := by
  intro same
  have opens := Text.after?_eq_some_iff.mpr (print_opening name version)
  rw [same, print_closing, after?_openingHead_closing] at opens
  cases opens

theorem isDefinite_openingPattern : openingPattern.IsDefinite := by
  intro line held other matched otherMatched
  rcases mem_ways_openingPattern_iff.mp matched with
    ⟨name, version, rfl, printable, rfl⟩
  rcases mem_ways_openingPattern_iff.mp otherMatched with
    ⟨otherName, otherVersion, rfl, otherPrintable, same⟩
  obtain ⟨rfl, rfl⟩ :=
    opening.inj (eq_of_print_eq printable otherPrintable same)
  rfl

theorem isDefinite_closingPattern : closingPattern.IsDefinite := by
  intro line held other matched otherMatched
  rcases mem_ways_closingPattern_iff.mp matched with
    ⟨name, rfl, printable, rfl⟩
  rcases mem_ways_closingPattern_iff.mp otherMatched with
    ⟨otherName, rfl, otherPrintable, same⟩
  obtain rfl := closing.inj (eq_of_print_eq printable otherPrintable same)
  rfl

theorem captures?_openingPattern_eq_some_iff
    {held : List (Option Text)}
    {line : Text} :
    openingPattern.captures? line = some held ↔
      ∃ name version,
        held = [some name, version] ∧
          (opening name version).IsPrintable ∧
          line = print (opening name version) := by
  rw [Pattern.captures?_eq_some_iff isDefinite_openingPattern,
    mem_ways_openingPattern_iff]

theorem captures?_closingPattern_eq_some_iff
    {held : List (Option Text)}
    {line : Text} :
    closingPattern.captures? line = some held ↔
      ∃ name,
        held = [some name] ∧
          (closing name).IsPrintable ∧ line = print (closing name) := by
  rw [Pattern.captures?_eq_some_iff isDefinite_closingPattern,
    mem_ways_closingPattern_iff]

/-- No line is matched by both patterns. -/
theorem captures?_openingPattern_or_closingPattern
    (line : Text) :
    openingPattern.captures? line = none ∨
      closingPattern.captures? line = none := by
  cases opens : openingPattern.captures? line with
  | none => exact Or.inl rfl
  | some held =>
      right
      cases closes : closingPattern.captures? line with
      | none => rfl
      | some other =>
          rcases captures?_openingPattern_eq_some_iff.mp opens with
            ⟨name, version, -, -, rfl⟩
          rcases captures?_closingPattern_eq_some_iff.mp closes with
            ⟨closed, -, -, same⟩
          exact absurd same (print_opening_ne_print_closing name version closed)

/-! ## Searching with the patterns -/

theorem find?_print
    {marker : Marker}
    (printable : marker.IsPrintable) :
    find? marker.print = some marker := by
  cases marker with
  | opening name version =>
      have opens :=
        captures?_openingPattern_eq_some_iff.mpr
          ⟨name, version, rfl, printable, rfl⟩
      rw [find?, opens]
  | closing name =>
      have closes :=
        captures?_closingPattern_eq_some_iff.mpr ⟨name, rfl, printable, rfl⟩
      rcases captures?_openingPattern_or_closingPattern (print (closing name))
        with opens | absent
      · rw [find?, opens, closes]
      · rw [absent] at closes
        cases closes

theorem find?_eq_some_iff
    {line : Text}
    {marker : Marker} :
    find? line = some marker ↔
      marker.IsPrintable ∧ line = marker.print := by
  constructor
  · intro found
    cases opens : openingPattern.captures? line with
    | some held =>
        rcases captures?_openingPattern_eq_some_iff.mp opens with
          ⟨name, version, rfl, printable, rfl⟩
        rw [find?, opens] at found
        obtain rfl := Option.some.inj found
        exact ⟨printable, rfl⟩
    | none =>
        cases closes : closingPattern.captures? line with
        | some held =>
            rcases captures?_closingPattern_eq_some_iff.mp closes with
              ⟨name, rfl, printable, rfl⟩
            rw [find?, opens, closes] at found
            obtain rfl := Option.some.inj found
            exact ⟨printable, rfl⟩
        | none =>
            rw [find?, opens, closes] at found
            cases found
  · rintro ⟨printable, rfl⟩
    exact find?_print printable

/-- Searching a line with the patterns and cutting it up find the same. -/
theorem find?_eq_ofLine?
    (line : Text) :
    find? line = ofLine? line := by
  ext marker
  rw [find?_eq_some_iff, ofLine?_eq_some_iff]

example :
    find? "<!-- BEGIN: v--> vv1--> -->".toList =
      some (opening "v-->".toList (some "v1-->".toList)) := by
  decide

/-! ## Lines that are printed for any name and version -/

/-- Where two labels with a version are the same text and the second one has
tokens, the parts are the same: the only white space of the second label is
the space in front of its version. -/
theorem eq_of_label_eq
    {name version otherName otherVersion : Text}
    (nameToken : otherName.isToken)
    (versionToken : otherVersion.isToken)
    (same :
      label name (some version) = label otherName (some otherVersion)) :
    name = otherName ∧ version = otherVersion := by
  have noSpace {text : Text} (token : text.isToken) : ' ' ∉ text :=
    not_mem_of_isToken (by decide) token
  simp only [label, versionMark_eq, List.append_assoc, List.cons_append,
    List.nil_append] at same
  rcases List.append_eq_append_iff.mp same with
    ⟨more, rfl, behind⟩ | ⟨more, rfl, behind⟩
  -- A longer second name would hold the first label's space, and a longer
  -- first name would put a space into the second version.
  · rcases more with _ | ⟨first, more⟩
    · simpa using behind
    · obtain ⟨rfl, -⟩ := List.cons.inj behind
      exact absurd (by simp) (noSpace nameToken)
  · rcases more with _ | ⟨first, more⟩
    · simpa using behind.symm
    · obtain ⟨-, below⟩ := List.cons.inj behind
      have space : ' ' ∈ 'v' :: otherVersion := by simp [below]
      rcases List.mem_cons.mp space with letter | inside
      · exact absurd letter (by decide)
      · exact absurd inside (noSpace versionToken)

theorem eq_opening_of_print_eq
    {name version : Text}
    {marker : Marker}
    (printable : marker.IsPrintable)
    (same : print (opening name (some version)) = marker.print) :
    marker = opening name (some version) := by
  cases marker with
  | closing other =>
      exact absurd same (print_opening_ne_print_closing name _ other)
  | opening other otherVersion =>
      rw [print_opening, print_opening, List.append_cancel_left_eq,
        List.append_cancel_right_eq] at same
      cases otherVersion with
      | none =>
          have spaced := isToken_label_some name version
          rw [same, show (label other none).isToken = true from printable.1]
            at spaced
          cases spaced
      | some otherVersion =>
          obtain ⟨rfl, rfl⟩ :=
            eq_of_label_eq printable.1 (printable.2 otherVersion rfl) same
          rfl

theorem eq_closing_of_print_eq
    {name : Text}
    {marker : Marker}
    (same : print (closing name) = marker.print) :
    marker = closing name := by
  cases marker with
  | opening other version =>
      exact absurd same.symm (print_opening_ne_print_closing other version name)
  | closing other =>
      rw [print_closing, print_closing, List.append_cancel_left_eq,
        List.append_cancel_right_eq] at same
      rw [same]

/-- If no other marker prints the line of a marker that is not printable, the
line is not recognized. -/
theorem ofLine?_print_eq_none
    {marker : Marker}
    (unprintable : ¬marker.IsPrintable)
    (only :
      ∀ other : Marker,
        other.IsPrintable → marker.print = other.print → other = marker) :
    ofLine? marker.print = none := by
  cases found : ofLine? marker.print with
  | none => rfl
  | some other =>
      rcases ofLine?_eq_some_iff.mp found with ⟨printable, same⟩
      obtain rfl := only other printable same
      exact absurd printable unprintable

/-- An opening line is recognized exactly if its name and its version are
tokens. -/
theorem ofLine?_print_opening
    (name version : Text) :
    ofLine? (print (opening name (some version))) =
      if name.isToken && version.isToken then
        some (opening name (some version))
      else
        none := by
  have tokens :
      (opening name (some version)).IsPrintable ↔
        (name.isToken && version.isToken) = true := by
    simp [IsPrintable]
  split
  · rename_i both
    exact ofLine?_print (tokens.mpr both)
  · rename_i notBoth
    apply ofLine?_print_eq_none
    · rwa [tokens]
    · intro other printable same
      exact eq_opening_of_print_eq printable same

/-- A closing line is recognized exactly if its name is a token. -/
theorem ofLine?_print_closing
    (name : Text) :
    ofLine? (print (closing name)) =
      if name.isToken then some (closing name) else none := by
  split
  · rename_i token
    exact ofLine?_print token
  · rename_i noToken
    apply ofLine?_print_eq_none
    · exact noToken
    · intro other _ same
      exact eq_closing_of_print_eq same

/-! ## Printing and recognition -/

/-- Printing and recognition undo each other.  A line that a region prints for
a name and a version is recognized, as what was printed, if these are tokens,
and it is not recognized otherwise.  What is recognized is a printed line of
the name and the version that are read, so it has one reading only.  A search
with patterns reads the same, and there is one way at most to match. -/
theorem printing_and_recognition :
    (∀ (region : MarkedRegion) (canonical : Section) (ending : LineEnding),
      (region.replaceWith canonical ending).openingLine =
          "<!-- BEGIN: ".toList ++ region.name ++ " v".toList
            ++ canonical.version ++ " -->".toList ++ ending.text ∧
        (MarkedRegion.ofSection canonical ending).closingLine =
          "<!-- END: ".toList ++ canonical.name ++ " -->".toList
            ++ ending.text) ∧
    (∀ name version : Text,
      ofLine?
          ("<!-- BEGIN: ".toList ++ name ++ " v".toList ++ version
            ++ " -->".toList) =
        if name.isToken && version.isToken then
          some (opening name (some version))
        else
          none) ∧
    (∀ name : Text,
      ofLine? ("<!-- END: ".toList ++ name ++ " -->".toList) =
        if name.isToken then some (closing name) else none) ∧
    (∀ line marker,
      ofLine? line = some marker ↔
        marker.IsPrintable ∧ line = marker.print) ∧
    (Function.Injective fun marker : { marker : Marker // marker.IsPrintable } =>
      marker.val.print) ∧
    (∀ name version other,
      print (opening name version) ≠ print (closing other)) ∧
    (∀ line,
      find? line = ofLine? line ∧
        (openingPattern.captures? line = none ∨
          closingPattern.captures? line = none)) ∧
    openingPattern.IsDefinite ∧ closingPattern.IsDefinite := by
  refine
    ⟨fun region canonical ending => ⟨rfl, rfl⟩, ofLine?_print_opening,
      ofLine?_print_closing, fun line marker => ofLine?_eq_some_iff, ?_,
      print_opening_ne_print_closing, ?_, isDefinite_openingPattern,
      isDefinite_closingPattern⟩
  · intro marker other same
    exact Subtype.ext (eq_of_print_eq marker.property other.property same)
  · intro line
    exact ⟨find?_eq_ofLine? line,
      captures?_openingPattern_or_closingPattern line⟩

end RegionSync.Marker
