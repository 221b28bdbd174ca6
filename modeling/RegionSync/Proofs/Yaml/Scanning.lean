import RegionSync.Text.Blank
import RegionSync.Yaml.Token.Lexer

/-!
# Where the characters of a scalar come from

Every reading of a scalar stops at a suffix of the text that it started from.
A plain scalar is the text in front of that suffix, with its line breaks
folded.  White space that is folded leaves white space behind, so a plain
scalar without any was not folded: its characters stand at the start of the
text, one after the other.
-/

namespace RegionSync.Yaml

/-- A text that holds no white space. -/
def IsUnbroken (text : Text) : Prop :=
  ∀ char ∈ text, Text.isWhiteSpace char = false

namespace IsUnbroken

variable {left right : Text}

theorem append_iff :
    IsUnbroken (left ++ right) ↔ IsUnbroken left ∧ IsUnbroken right :=
  List.forall_mem_append

theorem not_of_mem
    (char : Char)
    (member : char ∈ left)
    (white : Text.isWhiteSpace char = true) :
    ¬IsUnbroken left := by
  intro unbroken
  rw [unbroken char member] at white
  cases white

end IsUnbroken

theorem isWhiteSpace_of_isBlank
    {char : Char}
    (blank : isBlank char = true) :
    Text.isWhiteSpace char = true := by
  rcases (by simpa [isBlank] using blank : char = ' ' ∨ char = '\t') with
    rfl | rfl <;> decide

theorem isWhiteSpace_of_isBreak
    {char : Char}
    (ends : isBreak char = true) :
    Text.isWhiteSpace char = true := by
  have break_cases :
      (char = '\n' ∨ char = '\u2028') ∨ char = '\u2029' := by
    simpa [isBreak] using ends
  rcases break_cases with (rfl | rfl) | rfl <;> decide

/-! ## Cursors -/

theorem Cursor.skip_suffix
    (count : Nat)
    (cursor : Cursor) :
    (cursor.skip count).rest <:+ cursor.rest := by
  induction count generalizing cursor with
  | zero => exact List.suffix_rfl
  | succ count ih =>
      rcases cursor with ⟨_ | ⟨char, rest⟩, place⟩
      · exact List.suffix_rfl
      · exact (ih _).trans (List.suffix_cons char rest)

theorem Cursor.skipWhile_suffix
    (skipped : Char → Bool)
    (place : Place)
    (text : Text) :
    (Cursor.skipWhile skipped place text).rest <:+ text := by
  induction text generalizing place with
  | nil => exact List.suffix_rfl
  | cons char rest ih =>
      unfold skipWhile
      split
      · exact (ih _).trans (List.suffix_cons char rest)
      · exact List.suffix_rfl

theorem Lexer.skipSpaceFrom_suffix
    (inBrackets keyAllowed inComment : Bool)
    (place : Place)
    (text : Text) :
    (skipSpaceFrom inBrackets keyAllowed inComment place text).2.rest <:+
      text := by
  induction text generalizing keyAllowed inComment place with
  | nil => exact List.suffix_rfl
  | cons char rest ih =>
      have further
          (keyAllowed inComment : Bool)
          (place : Place) :
          (skipSpaceFrom inBrackets keyAllowed inComment place rest).2.rest <:+
            char :: rest :=
        (ih keyAllowed inComment place).trans (List.suffix_cons char rest)
      unfold skipSpaceFrom
      split
      · exact further _ _ _
      split
      · exact further _ _ _
      split
      · exact further _ _ _
      · exact List.suffix_rfl

/-! ## Block scalars -/

namespace Block

theorem scanFrom_suffix
    {isFolded : Bool}
    {level : Nat}
    {progress last : Progress}
    {place : Place}
    {text : Text}
    {cursor : Cursor}
    (scanned :
      scanFrom isFolded level progress place text = some (last, cursor)) :
    cursor.rest <:+ text := by
  induction text generalizing progress place with
  | nil =>
      obtain ⟨-, rfl⟩ := Prod.mk.inj (Option.some.inj scanned)
      exact List.suffix_rfl
  | cons char rest ih =>
      have further
          {progress : Progress}
          {place : Place}
          (scanned :
            scanFrom isFolded level progress place rest =
              some (last, cursor)) :
          cursor.rest <:+ char :: rest :=
        (ih scanned).trans (List.suffix_cons char rest)
      unfold scanFrom at scanned
      dsimp only at scanned
      split at scanned
      · split at scanned <;> exact further scanned
      split at scanned
      · exact further scanned
      split at scanned
      · cases scanned
      split at scanned
      · exact further scanned
      split at scanned
      · exact further scanned
      · obtain ⟨-, rfl⟩ := Prod.mk.inj (Option.some.inj scanned)
        exact List.suffix_rfl

theorem scan_suffix
    {isFolded : Bool}
    {level : Nat}
    {cursor : Cursor}
    {scanned : Scanned}
    (read : scan isFolded level cursor = some scanned) :
    scanned.cursor.rest <:+ cursor.rest := by
  unfold scan at read
  simp only [bind, Option.bind_eq_some_iff] at read
  rcases read with ⟨⟨chomping, increment, behind⟩, -, read⟩
  dsimp only at read
  generalize header : (cursor.skip 1).skip _ = signs at read
  have toBlanks :
      (Cursor.skipWhile isBlank signs.place signs.rest).rest <:+
        cursor.rest := by
    rw [← header]
    exact (Cursor.skipWhile_suffix _ _ _).trans
      ((Cursor.skip_suffix _ _).trans (Cursor.skip_suffix _ _))
  have ends
      {lineEnd : Cursor}
      {start : Progress}
      (toLineEnd : lineEnd.rest <:+ cursor.rest)
      (read :
        ((scanFrom isFolded level start (lineEnd.skip 1).place
            (lineEnd.skip 1).rest).bind fun read =>
          some (⟨read.1.text chomping, read.2, true⟩ : Scanned)) =
          some scanned) :
      scanned.cursor.rest <:+ cursor.rest := by
    rcases Option.bind_eq_some_iff.mp read with ⟨⟨_, last⟩, lines, result⟩
    obtain rfl := Option.some.inj result
    exact (scanFrom_suffix lines).trans
      ((Cursor.skip_suffix _ _).trans toLineEnd)
  split at read
  · split at read
    · exact ends ((Cursor.skipWhile_suffix _ _ _).trans toBlanks) read
    · cases read
  · split at read
    · exact ends toBlanks read
    · cases read

end Block

/-! ## Quoted scalars -/

namespace Quoted

theorem scanDouble_suffix
    {escape : Escape}
    {gap : Gap}
    {read text : Text}
    {place : Place}
    {scanned : Scanned}
    (ends : scanDouble escape gap read place text = some scanned) :
    scanned.cursor.rest <:+ text := by
  induction text generalizing escape gap read place with
  | nil =>
      unfold scanDouble at ends
      cases ends
  | cons char rest ih =>
      have further
          {escape : Escape}
          {gap : Gap}
          {read : Text}
          {place : Place}
          (ends : scanDouble escape gap read place rest = some scanned) :
          scanned.cursor.rest <:+ char :: rest :=
        (ih ends).trans (List.suffix_cons char rest)
      cases escape with
      | begun =>
          simp only [scanDouble] at ends
          split at ends
          · exact further ends
          split at ends
          · exact further ends
          split at ends
          · exact further ends
          · cases ends
      | code left value =>
          simp only [scanDouble] at ends
          split at ends
          · cases ends
          split at ends
          · exact further ends
          split at ends
          · exact further ends
          · cases ends
      | none =>
          simp only [scanDouble] at ends
          split at ends
          · exact further ends
          split at ends
          · exact further ends
          split at ends
          · cases ends
          split at ends
          · obtain rfl := Option.some.inj ends
            exact List.suffix_cons char rest
          split at ends
          · exact further ends
          · exact further ends

theorem scanSingle_suffix
    {gap : Gap}
    {read text : Text}
    {place : Place}
    {scanned : Scanned}
    (ends : scanSingle gap read place text = some scanned) :
    scanned.cursor.rest <:+ text := by
  fun_induction scanSingle gap read place text with
  | case1 => cases ends
  | case2 _ _ _ rest ih =>
      have twoQuotes : rest <:+ '\'' :: '\'' :: rest := ⟨['\'', '\''], rfl⟩
      exact (ih ends).trans twoQuotes
  | case3 _ _ _ char rest _ _ _ ih =>
      exact (ih ends).trans (List.suffix_cons char rest)
  | case4 _ _ _ char rest _ _ _ _ ih =>
      exact (ih ends).trans (List.suffix_cons char rest)
  | case5 => cases ends
  | case6 _ _ _ rest =>
      obtain rfl := Option.some.inj ends
      exact List.suffix_cons '\'' rest
  | case7 _ _ _ char rest _ _ _ _ _ _ ih =>
      exact (ih ends).trans (List.suffix_cons char rest)

theorem scan_suffix
    {cursor : Cursor}
    {scanned : Scanned}
    (read : scan cursor = some scanned) :
    scanned.cursor.rest <:+ cursor.rest := by
  unfold scan at read
  split at read
  · rename_i rest quote
    rw [quote]
    exact (scanDouble_suffix read).trans (List.suffix_cons '"' rest)
  · rename_i rest quote
    rw [quote]
    exact (scanSingle_suffix read).trans (List.suffix_cons '\'' rest)
  · cases read

end Quoted

/-! ## Plain scalars -/

namespace Gap

/-- A gap in a plain scalar, where no break is escaped. -/
inductive IsPlain : Gap → Prop
  | none : IsPlain .none
  | blanks {reversed}
      (nonempty : reversed ≠ [])
      (blank : ∀ char ∈ reversed, isBlank char = true) :
      IsPlain (.blanks reversed)
  | breaks {first others}
      (firstBreak : isBreak first = true)
      (otherBreaks : ∀ char ∈ others, isBreak char = true) :
      IsPlain (.breaks (some first) others)

namespace IsPlain

variable {gap : Gap} {char : Char}

theorem pushBlank
    (plain : gap.IsPlain)
    (blank : isBlank char = true) :
    (gap.pushBlank char).IsPlain := by
  cases plain with
  | none => exact .blanks (by simp) (by simpa using blank)
  | blanks nonempty others =>
      exact .blanks (by simp) (List.forall_mem_cons.mpr ⟨blank, others⟩)
  | breaks first others => exact .breaks first others

theorem pushBreak
    (plain : gap.IsPlain)
    (ends : isBreak char = true) :
    (gap.pushBreak char).IsPlain := by
  cases plain with
  | none => exact .breaks ends (by simp)
  | blanks => exact .breaks ends (by simp)
  | breaks first others =>
      exact .breaks first (List.forall_mem_cons.mpr ⟨ends, others⟩)

/-- A gap leaves white space behind. -/
theorem not_isUnbroken_text
    (plain : gap.IsPlain)
    (wide : gap ≠ .none) :
    ¬IsUnbroken gap.text := by
  cases plain with
  | none => exact absurd rfl wide
  | @blanks reversed nonempty blank =>
      rcases List.exists_mem_of_ne_nil reversed nonempty with ⟨char, member⟩
      exact IsUnbroken.not_of_mem char (by simpa [text] using member)
        (isWhiteSpace_of_isBlank (blank char member))
  | @breaks first others firstBreak otherBreaks =>
      rw [text]
      split
      · split
        · exact IsUnbroken.not_of_mem ' ' (by simp) (by decide)
        · rename_i more
          rcases List.exists_mem_of_ne_nil others (by simpa using more) with
            ⟨char, member⟩
          exact IsUnbroken.not_of_mem char (by simpa using member)
            (isWhiteSpace_of_isBreak (otherBreaks char member))
      · exact IsUnbroken.not_of_mem first (by simp)
          (isWhiteSpace_of_isBreak firstBreak)

end IsPlain

end Gap

namespace Plain

variable
  {inBrackets : Bool}
  {level : Nat}
  {gap : Gap}
  {read text : Text}
  {place : Place}
  {scanned : Scanned}

theorem scanFrom_suffix
    (ends : scanFrom inBrackets level gap read place text = some scanned) :
    scanned.cursor.rest <:+ text := by
  induction text generalizing gap read place with
  | nil =>
      obtain rfl := Option.some.inj ends
      exact List.suffix_rfl
  | cons char rest ih =>
      have further
          {gap : Gap}
          {read : Text}
          {place : Place}
          (ends :
            scanFrom inBrackets level gap read place rest = some scanned) :
          scanned.cursor.rest <:+ char :: rest :=
        (ih ends).trans (List.suffix_cons char rest)
      unfold scanFrom at ends
      split at ends
      · split at ends
        · cases ends
        · exact further ends
      split at ends
      · exact further ends
      split at ends
      · obtain rfl := Option.some.inj ends
        exact List.suffix_rfl
      split at ends
      · cases ends
      split at ends
      · obtain rfl := Option.some.inj ends
        exact List.suffix_rfl
      · exact further ends

/-- A scalar without white space goes on with the next characters, and ends
where white space starts. -/
theorem scanFrom_unbroken
    (plain : gap.IsPlain)
    (ends : scanFrom inBrackets level gap read place text = some scanned)
    (unbroken : IsUnbroken scanned.text) :
    ∃ more,
      scanned.text = read.reverse ++ more ∧
        more <+: text ∧
        (gap ≠ .none → more = []) := by
  induction text generalizing gap read place with
  | nil =>
      obtain rfl := Option.some.inj ends
      exact ⟨[], by simp, List.nil_prefix, fun _ => rfl⟩
  | cons char rest ih =>
      have stops
          {cursor : Cursor}
          {onNewLine : Bool}
          (ends : some ⟨read.reverse, cursor, onNewLine⟩ = some scanned) :
          ∃ more,
            scanned.text = read.reverse ++ more ∧
              more <+: char :: rest ∧
              (gap ≠ .none → more = []) := by
        obtain rfl := Option.some.inj ends
        exact ⟨[], by simp, List.nil_prefix, fun _ => rfl⟩
      have widens
          {wider : Gap}
          {place : Place}
          (wide : wider ≠ .none)
          (plain : wider.IsPlain)
          (ends :
            scanFrom inBrackets level wider read place rest = some scanned) :
          ∃ more,
            scanned.text = read.reverse ++ more ∧
              more <+: char :: rest ∧
              (gap ≠ .none → more = []) := by
        rcases ih plain ends with ⟨more, text, -, nothing⟩
        obtain rfl := nothing wide
        exact ⟨[], text, List.nil_prefix, fun _ => rfl⟩
      unfold scanFrom at ends
      split at ends
      · rename_i blank
        split at ends
        · cases ends
        · exact widens (by cases gap <;> simp [Gap.pushBlank])
            (plain.pushBlank blank) ends
      split at ends
      · rename_i isBreak
        exact widens (by cases gap <;> simp [Gap.pushBreak])
          (plain.pushBreak isBreak) ends
      split at ends
      · exact stops ends
      split at ends
      · cases ends
      split at ends
      · exact stops ends
      · rcases ih .none ends with ⟨more, text, inFront, -⟩
        have whole :
            scanned.text = read.reverse ++ (gap.text ++ char :: more) := by
          simpa [Gap.joinOnto] using text
        rw [whole, IsUnbroken.append_iff, IsUnbroken.append_iff] at unbroken
        by_cases narrow : gap = .none
        · subst narrow
          refine ⟨char :: more, whole, ?_, fun wide => absurd rfl wide⟩
          exact List.cons_prefix_cons.mpr ⟨rfl, inFront⟩
        · exact absurd unbroken.2.1 (plain.not_isUnbroken_text narrow)

/-- A plain scalar without white space stands where it was read. -/
theorem scan_prefix
    {cursor : Cursor}
    (read : scan inBrackets level cursor = some scanned)
    (unbroken : IsUnbroken scanned.text) :
    scanned.text <+: cursor.rest := by
  rcases scanFrom_unbroken .none read unbroken with ⟨more, text, inFront, -⟩
  rw [text]
  exact inFront

end Plain

end RegionSync.Yaml
