import AccessController.Assembler
import Mathlib.Data.List.Forall2
import Mathlib.Data.Nat.Digits.Lemmas

/-!
# Numerals

A token is a numeral of a value when, without its underscores, it is made of decimal digits or
of `0x` or `0X` and hexadecimal digits, with an optional plus sign in front of the digits, and
the value fits 32 bits.  `Numeral` says so with the positional value of a list of digits; the
reader accepts exactly the numerals, with their values (`read_eq_ok_iff`).
-/

namespace AccessController.Number

/-- A digit of a base. From ten on the digits are letters, in either case. -/
def IsDigit (base : Nat) (char : Char) (digit : Nat) : Prop :=
  digit < base ∧ (char = digit.digitChar ∨ char = digit.digitChar.toUpper)

/-- At least one digit, and the number that the digits stand for, the first one highest. -/
def Digits (base : Nat) (text : List Char) (value : Nat) : Prop :=
  text ≠ [] ∧ ∃ digits, List.Forall₂ (IsDigit base) text digits ∧
    Nat.ofDigits base digits.reverse = value

/-- Digits behind an optional plus sign. -/
def Unsigned (base : Nat) (text : List Char) (value : Nat) : Prop :=
  Digits base text value ∨ ∃ digits, text = '+' :: digits ∧ Digits base digits value

/-- A text that is written in decimal digits, or in hexadecimal ones behind their mark. -/
inductive Written : List Char → Nat → Prop where
  | decimal {text : List Char} {value : Nat} : Unsigned 10 text value → Written text value
  | hexadecimal {mark : Char} {digits : List Char} {value : Nat} :
      mark = 'x' ∨ mark = 'X' → Unsigned 16 digits value → Written ('0' :: mark :: digits) value

/-- A token that is a number of 32 bits. Its underscores mean nothing. -/
def Numeral (token : List Char) (value : Nat) : Prop :=
  Written (token.filter (· != '_')) value ∧ value < 2 ^ 32

/-! ## Digits -/

theorem digitValue?_digitChar : ∀ digit < 16,
    digitValue? 16 digit.digitChar = some digit ∧
      digitValue? 16 digit.digitChar.toUpper = some digit := by
  decide

theorem toNat_letter : ∀ digit < 6, (digit + 10).digitChar.toNat = 97 + digit ∧
    (digit + 10).digitChar.toUpper.toNat = 65 + digit := by
  decide

theorem digitValue?_eq_filter {base : Nat} (small : base ≤ 16) (char : Char) :
    digitValue? base char = (digitValue? 16 char).filter (· < base) := by
  simp only [digitValue?, Option.filter_filter]
  congr 1
  funext digit
  simp only [← Bool.decide_and, decide_eq_decide]
  omega

theorem isDigit_of_digitValue? {char : Char} {digit : Nat}
    (found : digitValue? 16 char = some digit) : IsDigit 16 char digit := by
  obtain ⟨found, narrow⟩ := Option.filter_eq_some_iff.1 found
  have narrow : digit < 16 := of_decide_eq_true narrow
  refine ⟨narrow, ?_⟩
  split at found
  next range =>
    obtain ⟨low, high⟩ : 48 ≤ char.toNat ∧ char.toNat ≤ 57 := range
    have value : char.toNat - 48 = digit := Option.some.inj found
    refine .inl (Char.toNat_inj.1 ?_)
    rw [Nat.toNat_digitChar_of_lt_ten (by omega)]
    omega
  split at found
  next range =>
    obtain ⟨low, high⟩ : 97 ≤ char.toNat ∧ char.toNat ≤ 122 := range
    have value : char.toNat - 97 + 10 = digit := Option.some.inj found
    obtain ⟨letter, -⟩ := toNat_letter (char.toNat - 97) (by omega)
    refine .inl (Char.toNat_inj.1 ?_)
    rw [← value, letter]
    omega
  split at found
  next range =>
    obtain ⟨low, high⟩ : 65 ≤ char.toNat ∧ char.toNat ≤ 90 := range
    have value : char.toNat - 65 + 10 = digit := Option.some.inj found
    obtain ⟨-, letter⟩ := toNat_letter (char.toNat - 65) (by omega)
    refine .inr (Char.toNat_inj.1 ?_)
    rw [← value, letter]
    omega
  next => exact nomatch found

theorem digitValue?_eq_some_iff {base : Nat} (small : base ≤ 16) {char : Char} {digit : Nat} :
    digitValue? base char = some digit ↔ IsDigit base char digit := by
  rw [digitValue?_eq_filter small, Option.filter_eq_some_iff, decide_eq_true_iff]
  constructor
  · rintro ⟨found, narrow⟩
    exact ⟨narrow, (isDigit_of_digitValue? found).2⟩
  · rintro ⟨narrow, either⟩
    obtain ⟨lower, upper⟩ := digitValue?_digitChar digit (by omega)
    refine ⟨?_, narrow⟩
    rcases either with rfl | rfl
    · exact lower
    · exact upper

theorem not_isDigit {base digit : Nat} (small : base ≤ 16) {char : Char}
    (strange : digitValue? 16 char = none) : ¬ IsDigit base char digit := by
  intro isDigit
  have found := (digitValue?_eq_some_iff small).2 isDigit
  rw [digitValue?_eq_filter small, strange] at found
  cases found

theorem Digits.exists_isDigit {base value : Nat} {text : List Char}
    (digits : Digits base text value) : ∀ char ∈ text, ∃ digit, IsDigit base char digit := by
  obtain ⟨-, _, all, -⟩ := digits
  induction all with
  | nil => exact List.forall_mem_nil _
  | cons isDigit _ ih => exact List.forall_mem_cons.2 ⟨⟨_, isDigit⟩, ih⟩

/-! ## Runs of digits -/

/-- The first of some digits that stand behind a value continues that value. -/
theorem ofDigits_behind (base start digit : Nat) (digits : List Nat) :
    start * base ^ (digits.length + 1) + Nat.ofDigits base (digit :: digits).reverse =
      (start * base + digit) * base ^ digits.length + Nat.ofDigits base digits.reverse := by
  rw [Nat.ofDigits_reverse_cons]
  ring

/-- Reading digits behind a value appends them to the digits of that value, unless the bound is
passed. The values on the way only grow, so it is enough to look at the last one. -/
theorem readDigits_eq_ok_iff {base bound start value : Nat} (positive : 0 < base)
    (small : base ≤ 16) (below : start < bound) {text : List Char} :
    readDigits base bound start text = .ok value ↔
      ∃ digits, List.Forall₂ (IsDigit base) text digits ∧
        start * base ^ digits.length + Nat.ofDigits base digits.reverse = value ∧
        value < bound := by
  induction text generalizing start with
  | nil =>
    rw [readDigits, Except.ok.injEq]
    constructor
    · rintro rfl
      exact ⟨[], .nil, by simp, below⟩
    · rintro ⟨_, _ | _, rfl, -⟩
      simp
  | cons char rest ih =>
    cases found : digitValue? base char with
    | none =>
      rw [readDigits, found]
      refine iff_of_false nofun ?_
      rintro ⟨_, _ | ⟨isDigit, -⟩, -⟩
      rw [(digitValue?_eq_some_iff small).2 isDigit] at found
      cases found
    | some digit =>
      have only {other : Nat} (isDigit : IsDigit base char other) : digit = other :=
        Option.some.inj (found.symm.trans ((digitValue?_eq_some_iff small).2 isDigit))
      rw [readDigits, found]
      dsimp only
      split
      next inside =>
        rw [ih inside]
        constructor
        · rintro ⟨digits, all, same, fits⟩
          refine ⟨digit :: digits, .cons ((digitValue?_eq_some_iff small).1 found) all, ?_, fits⟩
          rw [List.length_cons, ofDigits_behind, same]
        · rintro ⟨_, _ | ⟨isDigit, all⟩, same, fits⟩
          obtain rfl := only isDigit
          rw [List.length_cons, ofDigits_behind] at same
          exact ⟨_, all, same, fits⟩
      next beyond =>
        -- the digits that were not read any more cannot take the value back below the bound
        refine iff_of_false nofun ?_
        rintro ⟨_, _ | ⟨isDigit, all⟩, same, fits⟩
        obtain rfl := only isDigit
        rw [List.length_cons, ofDigits_behind] at same
        have grows := Nat.le_mul_of_pos_right (start * base + digit)
          (Nat.pow_pos positive : 0 < base ^ rest.length)
        rw [all.length_eq] at grows
        omega

/-! ## Numbers -/

theorem not_digits_nil {base value : Nat} : ¬ Digits base [] value := fun digits => digits.1 rfl

theorem not_digits_of_mem {base value : Nat} (small : base ≤ 16) {text : List Char} {char : Char}
    (strange : digitValue? 16 char = none) (member : char ∈ text) : ¬ Digits base text value := by
  intro digits
  obtain ⟨_, isDigit⟩ := digits.exists_isDigit char member
  exact not_isDigit small strange isDigit

theorem unsigned_plus_iff {base value : Nat} (small : base ≤ 16) {digits : List Char} :
    Unsigned base ('+' :: digits) value ↔ Digits base digits value := by
  constructor
  · rintro (signless | ⟨_, same, signed⟩)
    · exact absurd signless (not_digits_of_mem small rfl List.mem_cons_self)
    · obtain ⟨-, rfl⟩ := List.cons.inj same
      exact signed
  · exact fun signed => .inr ⟨digits, rfl, signed⟩

theorem unsigned_iff_digits {base value : Nat} {text : List Char}
    (signless : ∀ digits, text ≠ '+' :: digits) :
    Unsigned base text value ↔ Digits base text value := by
  constructor
  · rintro (digits | ⟨digits, signed, -⟩)
    · exact digits
    · exact absurd signed (signless digits)
  · exact .inl

theorem readDigits_zero_eq_ok_iff {base bound value : Nat} (positive : 0 < base)
    (small : base ≤ 16) (bounded : 0 < bound) {text : List Char} (present : text ≠ []) :
    readDigits base bound 0 text = .ok value ↔ Digits base text value ∧ value < bound := by
  rw [readDigits_eq_ok_iff positive small bounded]
  constructor
  · rintro ⟨digits, all, same, fits⟩
    rw [Nat.zero_mul, Nat.zero_add] at same
    exact ⟨⟨present, digits, all, same⟩, fits⟩
  · rintro ⟨⟨-, digits, all, same⟩, fits⟩
    refine ⟨digits, all, ?_, fits⟩
    rw [Nat.zero_mul, Nat.zero_add, same]

theorem readUnsigned_eq_ok_iff {base bound value : Nat} (positive : 0 < base)
    (small : base ≤ 16) (bounded : 0 < bound) {text : List Char} :
    readUnsigned base bound text = .ok value ↔ Unsigned base text value ∧ value < bound := by
  unfold readUnsigned
  split
  next =>
    have signless (digits : List Char) : [] ≠ '+' :: digits := (List.cons_ne_nil _ _).symm
    rw [unsigned_iff_digits signless]
    exact iff_of_false nofun fun digits => not_digits_nil digits.1
  next =>
    rw [unsigned_plus_iff small]
    exact iff_of_false nofun fun digits => not_digits_nil digits.1
  next digits more =>
    rw [unsigned_plus_iff small]
    exact readDigits_zero_eq_ok_iff positive small bounded fun empty => more (empty ▸ rfl)
  next digits present _ signless =>
    rw [unsigned_iff_digits signless]
    exact readDigits_zero_eq_ok_iff positive small bounded present

theorem written_mark_iff {mark : Char} (either : mark = 'x' ∨ mark = 'X') {digits : List Char}
    {value : Nat} : Written ('0' :: mark :: digits) value ↔ Unsigned 16 digits value := by
  constructor
  · generalize same : '0' :: mark :: digits = text
    rintro (decimal | ⟨-, hexadecimal⟩)
    · subst same
      have signless (rest : List Char) : '0' :: mark :: digits ≠ '+' :: rest :=
        fun signed => absurd (List.cons.inj signed).1 (by decide)
      rw [unsigned_iff_digits signless] at decimal
      have strange : digitValue? 16 mark = none := by
        rcases either with rfl | rfl <;> rfl
      exact absurd decimal (not_digits_of_mem (by decide) strange (by simp))
    · injection same with _ behind
      injection behind with _ same
      exact same ▸ hexadecimal
  · exact .hexadecimal either

theorem written_iff_decimal {text : List Char} {value : Nat}
    (unmarked : ∀ mark digits, mark = 'x' ∨ mark = 'X' → text ≠ '0' :: mark :: digits) :
    Written text value ↔ Unsigned 10 text value := by
  constructor
  · rintro (decimal | ⟨either, -⟩)
    · exact decimal
    · exact absurd rfl (unmarked _ _ either)
  · exact .decimal

/-- A token is read as a number exactly if it is a numeral of that number. -/
theorem read_eq_ok_iff {token : List Char} {value : Nat} :
    read token = .ok value ↔ Numeral token value := by
  have bounded : 0 < bound := by decide
  rw [Numeral, ← show bound = 2 ^ 32 from rfl, read]
  split
  next digits spelled =>
    rw [spelled, written_mark_iff (.inl rfl),
      readUnsigned_eq_ok_iff (by decide) (by decide) bounded]
  next digits spelled =>
    rw [spelled, written_mark_iff (.inr rfl),
      readUnsigned_eq_ok_iff (by decide) (by decide) bounded]
  next small large =>
    rw [written_iff_decimal, readUnsigned_eq_ok_iff (by decide) (by decide) bounded]
    rintro mark digits (rfl | rfl)
    · exact small digits
    · exact large digits

/-! ## Writing numbers -/

theorem isDigit_digitChar {base digit : Nat} (narrow : digit < base) :
    IsDigit base digit.digitChar digit := ⟨narrow, .inl rfl⟩

theorem digits_toDigits {base : Nat} (several : 1 < base) (number : Nat) :
    Digits base (Nat.toDigits base number) number := by
  refine ⟨Nat.toDigits_ne_nil, ?_⟩
  rcases Nat.lt_or_ge number base with narrow | wide
  · rw [Nat.toDigits_of_lt_base narrow]
    exact ⟨[number], .cons (isDigit_digitChar narrow) .nil, Nat.ofDigits_singleton⟩
  · obtain ⟨-, digits, all, same⟩ := digits_toDigits several (number / base)
    have last := isDigit_digitChar (Nat.mod_lt number (by omega : 0 < base))
    rw [Nat.toDigits_of_base_le several wide]
    refine ⟨digits ++ [number % base], List.rel_append all (.cons last .nil), ?_⟩
    rw [List.reverse_append, List.reverse_singleton, List.singleton_append, Nat.ofDigits_cons, same,
      Nat.mod_add_div]
termination_by number
decreasing_by exact Nat.div_lt_self (by omega) several

theorem filter_digits {base value : Nat} (small : base ≤ 16) {text : List Char}
    (digits : Digits base text value) : text.filter (· != '_') = text := by
  refine List.filter_eq_self.2 fun char member => bne_iff_ne.2 ?_
  rintro rfl
  exact not_digits_of_mem small rfl member digits

/-- A number of 32 bits in decimal digits is a numeral. -/
theorem numeral_toDigits {number : Nat} (fits : number < 2 ^ 32) :
    Numeral (Nat.toDigits 10 number) number := by
  have digits := digits_toDigits (by decide : 1 < 10) number
  refine ⟨?_, fits⟩
  rw [filter_digits (by decide) digits]
  exact .decimal (.inl digits)

end AccessController.Number
