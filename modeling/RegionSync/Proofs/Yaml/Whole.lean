import Mathlib.Data.List.Forall2
import Mathlib.Data.List.Induction
import Mathlib.Data.Nat.Digits.Defs
import RegionSync.Text.Blank
import RegionSync.Yaml.Value

/-!
# Whole numbers

A plain scalar reads as a whole number if it is a numeral: decimal digits
without a leading zero, or digits of another base behind its mark, and perhaps
a sign in front.  `integer?_eq_some_iff` says that these are the texts that
are read so, within 128 bits.

A decimal numeral without a leading zero is what its number prints as, by
induction from its last digit.  So the digits that a whole number prints as
are the text that it was read from exactly if the text holds digits and
nothing else.
-/

namespace RegionSync.Yaml

/-! ## Digits -/

/-- A run of digits in a base, and the number that it stands for. -/
structure IsNumeral (base : Nat) (digits : Text) (value : Nat) : Prop where
  nonempty : digits ≠ []
  positional :
    ∃ values,
      List.Forall₂ (fun char value => Value.digit? base char = some value)
          digits values ∧
        value = Nat.ofDigits base values.reverse

/-- The letters that mark a base behind a zero. -/
def baseMarks : List (Char × Nat) :=
  [('x', 16), ('o', 8), ('b', 2)]

/-- A text without a sign that reads as a whole number. -/
inductive IsUnsigned : Text → Nat → Prop
  | decimal {digits value}
      (unpadded : digits.head? = some '0' → digits = ['0'])
      (numeral : IsNumeral 10 digits value) :
      IsUnsigned digits value
  | marked {mark base digits value}
      (known : (mark, base) ∈ baseMarks)
      (numeral : IsNumeral base digits value) :
      IsUnsigned ('0' :: mark :: digits) value

/-- A text that reads as a whole number. -/
inductive IsWhole : Text → Int → Prop
  | unsigned {text value}
      (spelled : IsUnsigned text value) :
      IsWhole text value
  | plus {text value}
      (spelled : IsUnsigned text value) :
      IsWhole ('+' :: text) value
  | minus {text value}
      (spelled : IsUnsigned text value) :
      IsWhole ('-' :: text) (-value)

namespace Value

variable {base value : Nat} {char : Char} {digits text : Text}

/-- Horner's rule. -/
theorem ofDigits_reverse
    (values : List Nat) :
    Nat.ofDigits base values.reverse =
      values.foldl (fun above digit => digit + base * above) 0 := by
  rw [Nat.ofDigits_eq_foldr, List.foldr_reverse]
  rfl

theorem naturalFrom?_eq_some_iff
    {start : Nat} :
    naturalFrom? base start digits = some value ↔
      ∃ values,
        List.Forall₂ (fun char value => digit? base char = some value)
            digits values ∧
          value =
            values.foldl (fun above digit => digit + base * above) start := by
  induction digits generalizing start with
  | nil =>
      constructor
      · intro read
        exact ⟨[], .nil, (Option.some.inj read).symm⟩
      · rintro ⟨_, each, rfl⟩
        cases each
        rfl
  | cons char rest ih =>
      have next :
          naturalFrom? base start (char :: rest) =
            (digit? base char).bind fun digit =>
              naturalFrom? base (digit + base * start) rest := by
        simp only [naturalFrom?, Nat.add_comm]
        rfl
      rw [next, Option.bind_eq_some_iff]
      constructor
      · rintro ⟨digit, read, below⟩
        rcases ih.mp below with ⟨values, each, rfl⟩
        exact ⟨digit :: values, .cons read each, rfl⟩
      · rintro ⟨_, each, rfl⟩
        cases each with
        | cons read below => exact ⟨_, read, ih.mpr ⟨_, below, rfl⟩⟩

theorem natural?_eq_some_iff :
    natural? base digits = some value ↔ IsNumeral base digits value := by
  unfold natural?
  by_cases empty : digits = []
  · subst empty
    constructor
    · intro read
      cases read
    · intro numeral
      exact absurd rfl numeral.nonempty
  · rw [if_neg (by simpa using empty), naturalFrom?_eq_some_iff]
    simp only [← ofDigits_reverse]
    exact ⟨fun positional => ⟨empty, positional⟩,
      fun numeral => numeral.positional⟩

theorem digit?_ten_eq_some_iff :
    digit? 10 char = some value ↔
      char.isDigit = true ∧ value = char.toNat - '0'.toNat := by
  have isDigit_iff :
      char.isDigit = true ↔ ('0' ≤ char && char ≤ '9') = true := by
    simp [Char.isDigit, Char.le_def]
  unfold digit?
  rw [Option.filter_eq_some_iff, isDigit_iff]
  unfold Quoted.hexValue?
  by_cases isDigit : ('0' ≤ char && char ≤ '9') = true
  · have small : char.toNat - '0'.toNat < 10 := by
      have above : char.toNat ≤ '9'.toNat := by
        simp only [Bool.and_eq_true, decide_eq_true_eq] at isDigit
        exact isDigit.2
      have last : '9'.toNat = '0'.toNat + 9 := rfl
      omega
    rw [if_pos isDigit, Option.some.injEq]
    constructor
    · rintro ⟨rfl, -⟩
      exact ⟨isDigit, rfl⟩
    · rintro ⟨-, rfl⟩
      exact ⟨rfl, decide_eq_true small⟩
  · -- A letter stands for ten at least.
    rw [if_neg isDigit]
    constructor
    · rintro ⟨letter, small⟩
      have bounded := of_decide_eq_true small
      split at letter
      · have large := Option.some.inj letter
        omega
      · split at letter
        · have large := Option.some.inj letter
          omega
        · cases letter
    · rintro ⟨digit, -⟩
      exact absurd digit isDigit

theorem forall₂_digit?_ten_iff
    {values : List Nat} :
    List.Forall₂ (fun char value => digit? 10 char = some value) digits
        values ↔
      (∀ char ∈ digits, char.isDigit = true) ∧
        values = digits.map fun char => char.toNat - '0'.toNat := by
  simp only [digit?_ten_eq_some_iff]
  induction digits generalizing values with
  | nil => simp
  | cons char rest ih =>
      rw [List.forall_mem_cons, List.map_cons]
      constructor
      · intro each
        cases each with
        | cons first others =>
            rcases first with ⟨digit, rfl⟩
            rcases ih.mp others with ⟨digits, rfl⟩
            exact ⟨⟨digit, digits⟩, rfl⟩
      · rintro ⟨⟨first, others⟩, rfl⟩
        exact .cons ⟨first, rfl⟩ (ih.mpr ⟨others, rfl⟩)

/-- The characters of a decimal numeral, and what it stands for. -/
theorem isNumeral_ten_iff :
    IsNumeral 10 digits value ↔
      digits ≠ [] ∧
        (∀ char ∈ digits, char.isDigit = true) ∧
        value = Nat.ofDigitChars 10 digits 0 := by
  have folded :
      Nat.ofDigits 10
          (digits.map fun char => char.toNat - '0'.toNat).reverse =
        Nat.ofDigitChars 10 digits 0 := by
    rw [ofDigits_reverse, List.foldl_map, Nat.ofDigitChars]
    simp only [Nat.add_comm]
  constructor
  · rintro ⟨nonempty, values, each, rfl⟩
    rcases forall₂_digit?_ten_iff.mp each with ⟨digits, rfl⟩
    exact ⟨nonempty, digits, folded⟩
  · rintro ⟨nonempty, digits, rfl⟩
    exact ⟨nonempty, _, forall₂_digit?_ten_iff.mpr ⟨digits, rfl⟩, folded.symm⟩

theorem digitChar_of_isDigit
    (isDigit : char.isDigit = true) :
    (char.toNat - '0'.toNat).digitChar = char := by
  have bounds := Char.isDigit_iff_toNat.mp isDigit
  have zero : '0'.toNat = 48 := rfl
  have nine : '9'.toNat = 57 := rfl
  have small : char.toNat - '0'.toNat < 10 := by omega
  apply Char.toNat_inj.mp
  rw [Nat.toNat_digitChar_of_lt_ten small]
  omega

/-- A decimal numeral without a leading zero is what its number prints as. -/
theorem toDigits_ofDigitChars
    (nonempty : digits ≠ [])
    (allDigits : ∀ char ∈ digits, char.isDigit = true)
    (unpadded : digits.head? = some '0' → digits = ['0']) :
    Nat.toDigits 10 (Nat.ofDigitChars 10 digits 0) = digits := by
  induction digits using List.reverseRecOn with
  | nil => exact absurd rfl nonempty
  | append_singleton front last ih =>
      have lastDigit := allDigits last (by simp)
      have printed := digitChar_of_isDigit lastDigit
      have bounds := Char.isDigit_iff_toNat.mp lastDigit
      have zero : '0'.toNat = 48 := rfl
      have nine : '9'.toNat = 57 := rfl
      have printedLast :
          Nat.toDigits 10 (last.toNat - '0'.toNat) = [last] := by
        rw [Nat.toDigits_of_lt_base (by omega), printed]
      rw [Nat.ofDigitChars_append, Nat.ofDigitChars_cons, Nat.ofDigitChars_nil]
      by_cases single : front = []
      · subst single
        simpa using printedLast
      · have noZero : front.head? ≠ some '0' := by
          intro padded
          rw [List.head?_append_of_ne_nil _ single] at unpadded
          have length := congrArg List.length (unpadded padded)
          rw [List.length_append] at length
          exact single (List.length_eq_zero_iff.mp (Nat.succ.inj length))
        have front_eq :=
          ih single (fun char member => allDigits char (by simp [member]))
            fun padded => absurd padded noZero
        have positive : 0 < Nat.ofDigitChars 10 front 0 := by
          rw [Nat.pos_iff_ne_zero]
          intro isZero
          rw [isZero] at front_eq
          rw [← front_eq] at noZero
          exact noZero rfl
        rw [← Nat.toDigits_append_toDigits (by omega) positive (by omega),
          front_eq, printedLast]

/-! ## Numbers without a sign -/

theorem dropSign_of_isDigit
    {signs : List Char}
    (noDigits : signs.any Char.isDigit = false)
    (isDigit : char.isDigit = true)
    (rest : Text) :
    dropSign signs (char :: rest) = char :: rest := by
  have noSign : char ∉ signs :=
    fun member => List.any_eq_false.mp noDigits char member isDigit
  rw [dropSign, if_neg (by simpa using noSign)]

theorem isZeroPadded_iff
    (allDigits : ∀ char ∈ digits, char.isDigit = true) :
    isZeroPadded digits = true ↔
      digits.head? = some '0' ∧ digits ≠ ['0'] := by
  rcases digits with _ | ⟨first, rest⟩
  · simp [isZeroPadded, dropSign]
  · have isDigit := allDigits first List.mem_cons_self
    have others : rest.all Char.isDigit = true := by
      rw [List.all_eq_true]
      exact fun char member => allDigits char (List.mem_cons_of_mem _ member)
    unfold isZeroPadded
    rw [dropSign_of_isDigit rfl isDigit]
    split
    · rename_i padded
      obtain ⟨rfl, rfl⟩ := List.cons.inj padded
      simp [others]
    · rename_i noZero
      have different : first ≠ '0' := by
        rintro rfl
        exact noZero rest rfl
      simp [different]

theorem isUnsigned_marked_iff
    {mark : Char}
    (base : Nat)
    (known : (mark, base) ∈ baseMarks) :
    IsUnsigned ('0' :: mark :: digits) value ↔ IsNumeral base digits value := by
  have unique :
      ∀ entry ∈ baseMarks, ∀ other ∈ baseMarks,
        entry.1 = other.1 → entry.2 = other.2 := by
    decide
  constructor
  · intro spelled
    cases spelled with
    | decimal unpadded => exact absurd (unpadded rfl) (by simp)
    | marked other numeral =>
        obtain rfl := unique _ known _ other rfl
        exact numeral
  · exact .marked known

theorem isUnsigned_unmarked_iff
    (unmarked :
      ∀ mark base rest, (mark, base) ∈ baseMarks → text ≠ '0' :: mark :: rest) :
    IsUnsigned text value ↔
      isZeroPadded text = false ∧ IsNumeral 10 text value := by
  have padded_iff (numeral : IsNumeral 10 text value) :
      isZeroPadded text = false ↔ (text.head? = some '0' → text = ['0']) := by
    rw [← Bool.not_eq_true,
      isZeroPadded_iff (isNumeral_ten_iff.mp numeral).2.1]
    exact not_and_not_right
  constructor
  · intro spelled
    cases spelled with
    | decimal unpadded numeral =>
        exact ⟨(padded_iff numeral).mpr unpadded, numeral⟩
    | marked known numeral => exact absurd rfl (unmarked _ _ _ known)
  · rintro ⟨noPadding, numeral⟩
    exact .decimal ((padded_iff numeral).mp noPadding) numeral

theorem unsigned?_eq_some_iff :
    unsigned? text = some value ↔ IsUnsigned text value := by
  unfold unsigned?
  split
  · rw [natural?_eq_some_iff, isUnsigned_marked_iff 16 (by decide)]
  · rw [natural?_eq_some_iff, isUnsigned_marked_iff 8 (by decide)]
  · rw [natural?_eq_some_iff, isUnsigned_marked_iff 2 (by decide)]
  · rename_i noSixteen noEight noTwo
    have unmarked :
        ∀ mark base rest,
          (mark, base) ∈ baseMarks → text ≠ '0' :: mark :: rest := by
      intro mark base rest known same
      simp only [baseMarks, List.mem_cons, Prod.mk.injEq,
        List.not_mem_nil, or_false] at known
      rcases known with ⟨rfl, -⟩ | ⟨rfl, -⟩ | ⟨rfl, -⟩
      · exact noSixteen rest same
      · exact noEight rest same
      · exact noTwo rest same
    rw [isUnsigned_unmarked_iff unmarked, ← natural?_eq_some_iff]
    cases isZeroPadded text <;> simp

/-! ## Numbers with a sign -/

theorem head_isDigit_of_isUnsigned
    (spelled : IsUnsigned text value)
    (first : text.head? = some char) :
    char.isDigit = true := by
  cases spelled with
  | decimal unpadded numeral =>
      exact (isNumeral_ten_iff.mp numeral).2.1 char
        (List.mem_of_mem_head? first)
  | marked known numeral =>
      obtain rfl := Option.some.inj first
      rfl

theorem isWhole_minus_iff
    {rest : Text}
    {value : Int} :
    IsWhole ('-' :: rest) value ↔
      ∃ magnitude : Nat, IsUnsigned rest magnitude ∧ value = -magnitude := by
  constructor
  · intro spelled
    cases spelled with
    | unsigned spelled => cases head_isDigit_of_isUnsigned spelled rfl
    | minus spelled => exact ⟨_, spelled, rfl⟩
  · rintro ⟨magnitude, spelled, rfl⟩
    exact .minus spelled

theorem isWhole_iff_of_not_minus
    {value : Int}
    (noMinus : text.head? ≠ some '-') :
    IsWhole text value ↔
      ∃ magnitude : Nat,
        IsUnsigned (dropSign ['+'] text) magnitude ∧ value = magnitude := by
  constructor
  · intro spelled
    cases spelled with
    | @unsigned _ magnitude spelled =>
        refine ⟨magnitude, ?_, rfl⟩
        rcases text with _ | ⟨first, rest⟩
        · exact spelled
        · have isDigit := head_isDigit_of_isUnsigned spelled rfl
          rwa [dropSign_of_isDigit rfl isDigit]
    | plus spelled => exact ⟨_, spelled, rfl⟩
    | minus spelled => exact absurd rfl noMinus
  · rintro ⟨magnitude, spelled, rfl⟩
    rcases text with _ | ⟨first, rest⟩
    · exact .unsigned spelled
    · by_cases plus : first = '+'
      · subst plus
        exact .plus spelled
      · rw [dropSign, if_neg (by simpa using plus)] at spelled
        exact .unsigned spelled

/-- The whole numbers that are read have 128 bits. -/
theorem integer?_eq_some_iff
    {value : Int} :
    integer? text = some value ↔
      IsWhole text value ∧
        -((Nat.pow 2 127 : Nat) : Int) ≤ value ∧
        value < ((Nat.pow 2 128 : Nat) : Int) := by
  have positive : 0 < Nat.pow 2 128 := by decide
  unfold integer?
  generalize Nat.pow 2 127 = least at *
  generalize Nat.pow 2 128 = bound at *
  split
  · rename_i rest
    rw [isWhole_minus_iff]
    simp only [bind, Option.bind_eq_some_iff, unsigned?_eq_some_iff,
      Option.ite_none_right_eq_some, Option.some.injEq]
    constructor
    · rintro ⟨magnitude, spelled, small, rfl⟩
      exact ⟨⟨magnitude, spelled, rfl⟩, by omega, by omega⟩
    · rintro ⟨⟨magnitude, spelled, rfl⟩, above, -⟩
      exact ⟨magnitude, spelled, by omega, rfl⟩
  · rename_i noMinus
    have unsigned : text.head? ≠ some '-' := by
      rcases text with _ | ⟨first, rest⟩
      · nofun
      · intro same
        obtain rfl := Option.some.inj same
        exact noMinus rest rfl
    rw [isWhole_iff_of_not_minus unsigned]
    simp only [bind, Option.bind_eq_some_iff, unsigned?_eq_some_iff,
      Option.ite_none_right_eq_some, Option.some.injEq]
    constructor
    · rintro ⟨magnitude, spelled, small, rfl⟩
      exact ⟨⟨magnitude, spelled, rfl⟩, by omega, by omega⟩
    · rintro ⟨⟨magnitude, spelled, rfl⟩, -, below⟩
      exact ⟨magnitude, spelled, by omega, rfl⟩

/-! ## What a whole number prints as -/

theorem isDigit_of_mem_ofNat
    (member : char ∈ Text.ofNat value) :
    char.isDigit = true :=
  Nat.isDigit_of_mem_toDigits (by decide) (by decide) member

/-- A whole number prints as the text that it was read from exactly if that
text holds digits alone: no sign, and no mark of a base. -/
theorem ofNat_eq_iff
    (spelled : IsWhole text value) :
    Text.ofNat value = text ↔ ∀ char ∈ text, char.isDigit = true := by
  constructor
  · rintro rfl char member
    exact isDigit_of_mem_ofNat member
  · intro allDigits
    generalize number : (value : Int) = whole at spelled
    cases spelled with
    | unsigned spelled =>
        obtain rfl := Int.ofNat.inj number
        cases spelled with
        | decimal unpadded numeral =>
            rcases isNumeral_ten_iff.mp numeral with ⟨nonempty, digits, rfl⟩
            exact toDigits_ofDigitChars nonempty digits unpadded
        | @marked mark base digits _ known numeral =>
            have letters : ∀ entry ∈ baseMarks, entry.1.isDigit = false := by
              decide
            have isDigit := allDigits mark (by simp)
            rw [letters (mark, base) known] at isDigit
            cases isDigit
    | plus => cases allDigits '+' List.mem_cons_self
    | minus => cases allDigits '-' List.mem_cons_self

/-! ## Plain scalars -/

/-- A word for nothing or for a truth value is no number. -/
theorem integer?_eq_none_of_word
    (word : isNothing text = true ∨ isTruth text = true) :
    integer? text = none := by
  have noNumbers :
      ∀ word ∈ ["".toList, "~".toList, "null".toList, "Null".toList,
        "NULL".toList, "true".toList, "True".toList, "TRUE".toList,
        "false".toList, "False".toList, "FALSE".toList],
        integer? word = none := by
    decide +kernel
  apply noNumbers
  rcases word with nothing | truth
  · exact List.mem_append_left _ (List.contains_iff_mem.mp nothing)
  · exact List.mem_append_right
      ["".toList, "~".toList, "null".toList, "Null".toList, "NULL".toList]
      (List.contains_iff_mem.mp truth)

theorem ofPlain_eq_integer_iff
    {value : Int} :
    ofPlain text = .integer value ↔ integer? text = some value := by
  unfold ofPlain
  split
  · rename_i nothing
    simp [integer?_eq_none_of_word (Or.inl nothing)]
  split
  · rename_i truth
    simp [integer?_eq_none_of_word (Or.inr truth)]
  split
  · rename_i whole
    simp [whole]
  · rename_i noInteger
    split <;> simp [noInteger]

/-- A plain scalar that is text is its own text. -/
theorem eq_of_ofPlain_eq_text
    {other : Text}
    (read : ofPlain text = .text other) :
    other = text := by
  unfold ofPlain at read
  split at read
  · cases read
  split at read
  · cases read
  split at read
  · cases read
  split at read
  · cases read
  · exact (Value.text.inj read).symm

/-! ## White space -/

theorem not_isWhiteSpace_of_graphic
    (above : 32 < char.toNat)
    (below : char.toNat < 127) :
    Text.isWhiteSpace char = false := by
  simp only [Text.isWhiteSpace, Bool.or_eq_false_iff, Bool.and_eq_false_iff,
    decide_eq_false_iff_not, beq_eq_false_iff_ne]
  omega

theorem not_isWhiteSpace_of_digit?
    {digit : Nat}
    (read : digit? base char = some digit) :
    Text.isWhiteSpace char = false := by
  have code := (Option.filter_eq_some_iff.mp read).1
  have bounds :
      (48 ≤ char.toNat ∧ char.toNat ≤ 57) ∨
        (97 ≤ char.toNat ∧ char.toNat ≤ 102) ∨
        (65 ≤ char.toNat ∧ char.toNat ≤ 70) := by
    have among (first last : Char) :
        (first ≤ char && char ≤ last) = true →
          first.toNat ≤ char.toNat ∧ char.toNat ≤ last.toNat := by
      intro inside
      rw [Bool.and_eq_true, decide_eq_true_eq, decide_eq_true_eq] at inside
      exact inside
    unfold Quoted.hexValue? at code
    split at code
    · exact Or.inl (among '0' '9' ‹_›)
    split at code
    · exact Or.inr (Or.inl (among 'a' 'f' ‹_›))
    split at code
    · exact Or.inr (Or.inr (among 'A' 'F' ‹_›))
    · cases code
  exact not_isWhiteSpace_of_graphic (by omega) (by omega)

end Value

variable {base value : Nat} {digits text : Text}

theorem IsNumeral.not_isWhiteSpace
    (numeral : IsNumeral base digits value) :
    ∀ char ∈ digits, Text.isWhiteSpace char = false := by
  rcases numeral.positional with ⟨values, each, -⟩
  have solid :
      List.Forall₂
        (fun char value =>
          Text.isWhiteSpace char = false ∧
            Value.digit? base char = some value)
        digits values :=
    each.imp fun _ _ read => ⟨Value.not_isWhiteSpace_of_digit? read, read⟩
  exact ((List.forall₂_and_left _ _).mp solid).1

theorem IsUnsigned.not_isWhiteSpace
    (spelled : IsUnsigned text value) :
    ∀ char ∈ text, Text.isWhiteSpace char = false := by
  cases spelled with
  | decimal unpadded numeral => exact numeral.not_isWhiteSpace
  | marked known numeral =>
      have marks :
          ∀ entry ∈ baseMarks, Text.isWhiteSpace entry.1 = false := by
        decide
      exact List.forall_mem_cons.mpr
        ⟨by decide, List.forall_mem_cons.mpr
          ⟨marks (_, _) known, numeral.not_isWhiteSpace⟩⟩

/-- A whole number is spelled without white space. -/
theorem IsWhole.not_isWhiteSpace
    {value : Int}
    (spelled : IsWhole text value) :
    ∀ char ∈ text, Text.isWhiteSpace char = false := by
  cases spelled with
  | unsigned spelled => exact spelled.not_isWhiteSpace
  | plus spelled =>
      exact List.forall_mem_cons.mpr ⟨by decide, spelled.not_isWhiteSpace⟩
  | minus spelled =>
      exact List.forall_mem_cons.mpr ⟨by decide, spelled.not_isWhiteSpace⟩

end RegionSync.Yaml
