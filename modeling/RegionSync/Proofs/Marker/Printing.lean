import RegionSync.Marker

/-!
# Printing and recognizing markers

A marker is printable if its name and its version are tokens.  The main
statement is that `ofLine?` accepts exactly the printed lines of printable
markers and gives the marker back, so that no line has two readings.

The name is found again because it ends at the first white space: a label
with a version holds a space and is no token, and a label without one is.
-/

namespace RegionSync.Marker

/-- A marker whose name and version can be told apart in its line. -/
def IsPrintable : Marker → Prop
  | opening name version =>
      name.isToken ∧ ∀ token ∈ version, Text.isToken token
  | closing name => name.isToken

/-- What an opening marker prints between its head and its tail. -/
def label (name : Text) : Option Text → Text
  | none => name
  | some version => name ++ versionMark ++ version

theorem print_opening
    (name : Text)
    (version : Option Text) :
    print (opening name version) =
      openingHead ++ (label name version ++ tail) := by
  cases version <;> simp [print, label, List.append_assoc]

theorem print_closing
    (name : Text) :
    print (closing name) = closingHead ++ (name ++ tail) := by
  simp [print, List.append_assoc]

theorem versionMark_eq : versionMark = [' ', 'v'] := by
  decide

/-! ## Labels -/

theorem not_mem_of_isToken
    {char : Char}
    (white : Text.isWhiteSpace char)
    {text : Text}
    (token : text.isToken) :
    char ∉ text := by
  intro member
  have solid := (Text.isToken_iff.mp token).2 char member
  rw [white] at solid
  cases solid

theorem isToken_label_some
    (name version : Text) :
    (label name (some version)).isToken = false := by
  have space : ' ' ∈ label name (some version) := by
    simp [label, versionMark_eq]
  cases answer : (label name (some version)).isToken with
  | false => rfl
  | true => exact absurd space (not_mem_of_isToken (by decide) answer)

/-- The name of a label ends at its first white space. -/
theorem takeWhile_label_some
    {name : Text}
    (token : name.isToken)
    (version : Text) :
    (label name (some version)).takeWhile
        (fun char => !Text.isWhiteSpace char) = name := by
  have solid : ∀ char ∈ name, (!Text.isWhiteSpace char) = true := by
    intro char member
    simp [(Text.isToken_iff.mp token).2 char member]
  have white : Text.isWhiteSpace ' ' = true := by decide
  simp only [label, versionMark_eq, List.append_assoc]
  rw [List.takeWhile_append_of_pos solid]
  simp [white]

theorem ofLabel?_eq_some_iff
    {text : Text}
    {marker : Marker} :
    ofLabel? text = some marker ↔
      ∃ name version,
        marker = opening name version ∧ marker.IsPrintable ∧
          text = label name version := by
  constructor
  · intro found
    simp only [ofLabel?] at found
    split at found
    · rename_i token
      obtain rfl := Option.some.inj found
      exact ⟨text, none, rfl, ⟨token, by simp⟩, rfl⟩
    · split at found
      · rename_i version rest
        split at found
        · rename_i tokens
          obtain rfl := Option.some.inj found
          rw [Bool.and_eq_true] at tokens
          refine ⟨_, some version, rfl, ⟨tokens.1, ?_⟩, ?_⟩
          · simpa using tokens.2
          · simpa [label] using Text.after?_eq_some_iff.mp rest
        · cases found
      · cases found
  · rintro ⟨name, version, rfl, ⟨nameToken, versionToken⟩, rfl⟩
    cases version with
    | none => simp [ofLabel?, label, nameToken]
    | some version =>
        have notToken := isToken_label_some name version
        have rest :
            Text.after? (name ++ versionMark) (label name (some version)) =
              some version :=
          Text.after?_eq_some_iff.mpr rfl
        have token : Text.isToken version := versionToken version rfl
        simp [ofLabel?, notToken, takeWhile_label_some nameToken, rest,
          nameToken, token]

/-! ## Lines -/

/-- The two heads differ, so no line opens and closes. -/
theorem after?_openingHead_closing
    (rest : Text) :
    Text.after? openingHead (closingHead ++ rest) = none := by
  have openingStart : openingHead =
      ['<', '!', '-', '-', ' ', 'B'] ++ openingHead.drop 6 := by decide
  have closingStart : closingHead =
      ['<', '!', '-', '-', ' ', 'E'] ++ closingHead.drop 6 := by decide
  rw [openingStart, closingStart]
  generalize openingHead.drop 6 = moreOpening
  generalize closingHead.drop 6 = moreClosing
  simp [Text.after?]

/-- Recognition accepts exactly the printed lines of printable markers. -/
theorem ofLine?_eq_some_iff
    {line : Text}
    {marker : Marker} :
    ofLine? line = some marker ↔
      marker.IsPrintable ∧ line = marker.print := by
  constructor
  · intro found
    simp only [ofLine?] at found
    split at found
    · rename_i rest start
      rcases Option.bind_eq_some_iff.mp found with ⟨text, ended, labelled⟩
      rcases ofLabel?_eq_some_iff.mp labelled with
        ⟨name, version, rfl, printable, rfl⟩
      refine ⟨printable, ?_⟩
      rw [print_opening, Text.after?_eq_some_iff.mp start,
        Text.before?_eq_some_iff.mp ended]
    · split at found
      · rename_i name body
        split at found
        · rename_i token
          obtain rfl := Option.some.inj found
          rcases Option.bind_eq_some_iff.mp body with ⟨rest, start, ended⟩
          refine ⟨token, ?_⟩
          rw [print_closing, Text.after?_eq_some_iff.mp start,
            Text.before?_eq_some_iff.mp ended]
        · cases found
      · cases found
  · rintro ⟨printable, rfl⟩
    cases marker with
    | opening name version =>
        have start :=
          Text.after?_eq_some_iff.mpr (print_opening name version)
        have ended : Text.before? tail (label name version ++ tail) =
            some (label name version) :=
          Text.before?_eq_some_iff.mpr rfl
        have labelled : ofLabel? (label name version) =
            some (opening name version) :=
          ofLabel?_eq_some_iff.mpr ⟨name, version, rfl, printable, rfl⟩
        simp [ofLine?, start, ended, labelled]
    | closing name =>
        have start :=
          Text.after?_eq_some_iff.mpr (print_closing name)
        have notOpening :
            Text.after? openingHead (print (closing name)) = none := by
          rw [print_closing]
          exact after?_openingHead_closing _
        have ended : Text.before? tail (name ++ tail) = some name :=
          Text.before?_eq_some_iff.mpr rfl
        have token : name.isToken = true := printable
        simp [ofLine?, notOpening, start, ended, token]

theorem ofLine?_print
    {marker : Marker}
    (printable : marker.IsPrintable) :
    ofLine? marker.print = some marker :=
  ofLine?_eq_some_iff.mpr ⟨printable, rfl⟩

/-! ## Characters of a printed marker -/

theorem getLast?_print (marker : Marker) :
    marker.print.getLast? = some '>' := by
  cases marker with
  | opening name version =>
      rw [print_opening]
      simp [tail, List.getLast?_append]
  | closing name =>
      rw [print_closing]
      simp [tail, List.getLast?_append]

theorem feed_not_mem_of_isToken
    {text : Text}
    (token : text.isToken) :
    '\n' ∉ text :=
  not_mem_of_isToken (by decide) token

theorem feed_not_mem_print
    {marker : Marker}
    (printable : marker.IsPrintable) :
    '\n' ∉ marker.print := by
  have heads : '\n' ∉ openingHead ∧ '\n' ∉ closingHead ∧
      '\n' ∉ versionMark ∧ '\n' ∉ tail := by decide
  rcases heads with ⟨openingFree, closingFree, markFree, tailFree⟩
  cases marker with
  | opening name version =>
      have nameFree := feed_not_mem_of_isToken printable.1
      cases version with
      | none => simp [print, openingFree, nameFree, tailFree]
      | some version =>
          have versionFree :=
            feed_not_mem_of_isToken (printable.2 version rfl)
          simp [print, openingFree, nameFree, markFree, versionFree,
            tailFree]
  | closing name =>
      have nameFree : '\n' ∉ name := feed_not_mem_of_isToken printable
      simp [print, closingFree, nameFree, tailFree]

end RegionSync.Marker
