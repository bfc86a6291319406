import Mathlib
import Cadence.Text.Numeral

/-!
# The grammar of unsigned numerals

`Text.parseUnsigned` reads a text left to right. This module says what it accepts without
following the reading: a text is a numeral of value `n` (`Text.IsNumeral`) when it is one or
more ASCII digits, perhaps after a `+`, whose decimal value is `n`, and the reading returns `n`
exactly when the text is such a numeral and `n` is within the bound. Every other text is
refused, and the refusal names its cause: the text is empty; a run of digits after the sign
passes the bound before any character that is not a digit; or such a character comes first, a
lone sign counted as one.

Main statements: `Text.parseUnsigned_eq_ok_iff`, `Text.parseUnsigned_eq_empty_iff`,
`Text.parseUnsigned_eq_tooLarge_iff` and `Text.parseUnsigned_eq_invalidDigit_iff`.
-/

namespace Cadence.Text

/-- The decimal value of `digits`, most significant first, read on after the value `acc`. -/
def digitsValue (acc : Nat) (digits : List Char) : Nat :=
  digits.foldl (fun value c => value * 10 + (c.toNat - '0'.toNat)) acc

@[simp] theorem digitsValue_nil (acc : Nat) : digitsValue acc [] = acc := rfl

@[simp] theorem digitsValue_cons (acc : Nat) (c : Char) (digits : List Char) :
    digitsValue acc (c :: digits) = digitsValue (acc * 10 + (c.toNat - '0'.toNat)) digits := by
  rw [digitsValue, List.foldl_cons]
  rfl

/-- Reading on never lowers the value. -/
theorem le_digitsValue (acc : Nat) (digits : List Char) : acc ≤ digitsValue acc digits := by
  induction digits generalizing acc with
  | nil => exact Nat.le_refl acc
  | cons c rest ih =>
    rw [digitsValue_cons]
    exact Nat.le_trans (by omega) (ih _)

/-- `text` is an unsigned decimal numeral of value `n`: one or more ASCII digits, perhaps after
a `+`. -/
def IsNumeral (text : String) (n : Nat) : Prop :=
  ∃ digits : List Char, digits ≠ [] ∧ (∀ c ∈ digits, c.isDigit) ∧ digitsValue 0 digits = n ∧
    (text.toList = digits ∨ text.toList = '+' :: digits)

/-- The characters of `text` after its leading `+`, if it has one. -/
def unsignedPart (text : String) : List Char :=
  match text.toList with
  | '+' :: rest => rest
  | chars => chars

theorem unsignedPart_eq_nil_iff (text : String) :
    unsignedPart text = [] ↔ text = "" ∨ text = "+" := by
  rw [← String.toList_eq_nil_iff, ← String.toList_inj]
  unfold unsignedPart
  split
  next rest signed => simp [signed]
  next other =>
    -- a lone sign would have been cut off
    have notSign : text.toList ≠ "+".toList := fun sign => other [] (sign.trans (by simp))
    simp only [notSign, or_false]

theorem unsignedPart_of_signed {text : String} {rest : List Char}
    (signed : text.toList = '+' :: rest) : unsignedPart text = rest := by
  simp [unsignedPart, signed]

theorem unsignedPart_of_unsigned {text : String}
    (unsigned : ∀ rest, text.toList = '+' :: rest → False) : unsignedPart text = text.toList := by
  unfold unsignedPart
  split
  next rest signed => exact absurd signed (unsigned rest)
  next => rfl

/-- A numeral is a text whose characters after the sign are one or more digits. -/
theorem isNumeral_iff (text : String) (n : Nat) :
    IsNumeral text n ↔ unsignedPart text ≠ [] ∧ (∀ c ∈ unsignedPart text, c.isDigit) ∧
      digitsValue 0 (unsignedPart text) = n := by
  unfold IsNumeral unsignedPart
  split
  next rest signed =>
    rw [signed]
    constructor
    · rintro ⟨digits, nonempty, allDigits, value, plain | signed'⟩
      · -- read without its sign, the text would have the sign as a digit
        have := allDigits '+' (by simp [← plain])
        simp at this
      · rw [(List.cons.inj signed').2]
        exact ⟨nonempty, allDigits, value⟩
    · rintro ⟨nonempty, allDigits, value⟩
      exact ⟨rest, nonempty, allDigits, value, .inr rfl⟩
  next unsigned =>
    constructor
    · rintro ⟨digits, nonempty, allDigits, value, plain | signed⟩
      · rw [plain]
        exact ⟨nonempty, allDigits, value⟩
      · exact absurd signed (unsigned digits)
    · rintro ⟨nonempty, allDigits, value⟩
      exact ⟨_, nonempty, allDigits, value, .inl rfl⟩

/-! ### Reading digits -/

section Digits

variable {bound acc n : Nat} {digits : List Char}

/-- Digits are never refused as empty. -/
theorem readDigits_ne_empty : readDigits bound digits acc ≠ .error .empty := by
  induction digits generalizing acc with
  | nil => simp [readDigits]
  | cons c rest ih =>
    simp only [readDigits]
    split
    · split
      · exact ih
      · simp
    · simp

/-- Reading digits onto a value within the bound succeeds exactly on a run of digits whose
value stays within the bound, and gives that value. -/
theorem readDigits_eq_ok_iff (within : acc ≤ bound) :
    readDigits bound digits acc = .ok n ↔
      (∀ c ∈ digits, c.isDigit) ∧ digitsValue acc digits = n ∧ n ≤ bound := by
  induction digits generalizing acc with
  | nil =>
    simp only [readDigits, Except.ok.injEq, digitsValue_nil]
    constructor
    · rintro rfl
      exact ⟨by simp, rfl, within⟩
    · rintro ⟨-, same, -⟩
      exact same
  | cons c rest ih =>
    simp only [readDigits, List.forall_mem_cons, digitsValue_cons]
    by_cases digit : c.isDigit
    · by_cases fits : acc * 10 + (c.toNat - '0'.toNat) ≤ bound
      · rw [if_pos digit, if_pos fits, ih fits]
        simp only [digit, true_and]
      · -- the value read so far already passes the bound, and reading on only raises it
        have raised := le_digitsValue (acc * 10 + (c.toNat - '0'.toNat)) rest
        rw [if_pos digit, if_neg fits]
        constructor
        · intro refused
          cases refused
        · rintro ⟨-, rfl, within'⟩
          omega
    · rw [if_neg digit]
      constructor
      · intro refused
        cases refused
      · rintro ⟨⟨isDigit, -⟩, -⟩
        exact absurd isDigit digit

/-- Reading digits onto a value within the bound passes the bound exactly when a run of digits
at its front has a value above it. -/
theorem readDigits_eq_tooLarge_iff (within : acc ≤ bound) :
    readDigits bound digits acc = .error .tooLarge ↔
      ∃ run rest, digits = run ++ rest ∧ (∀ c ∈ run, c.isDigit) ∧
        bound < digitsValue acc run := by
  induction digits generalizing acc with
  | nil =>
    simp only [readDigits, reduceCtorEq, false_iff, not_exists, not_and]
    intro run rest split _
    rw [(List.nil_eq_append_iff.1 split).1, digitsValue_nil]
    omega
  | cons c rest ih =>
    simp only [readDigits]
    by_cases digit : c.isDigit
    · by_cases fits : acc * 10 + (c.toNat - '0'.toNat) ≤ bound
      · rw [if_pos digit, if_pos fits, ih fits]
        constructor
        · rintro ⟨run, after, rfl, allDigits, above⟩
          exact ⟨c :: run, after, rfl, List.forall_mem_cons.2 ⟨digit, allDigits⟩, above⟩
        · rintro ⟨run, after, split, allDigits, above⟩
          -- the run is not empty, since the value read so far is within the bound
          cases run with
          | nil =>
            rw [digitsValue_nil] at above
            omega
          | cons d run =>
            obtain ⟨rfl, rfl⟩ := List.cons.inj split
            exact ⟨run, after, rfl, (List.forall_mem_cons.1 allDigits).2, above⟩
      · rw [if_pos digit, if_neg fits]
        refine iff_of_true rfl ⟨[c], rest, rfl, List.forall_mem_cons.2 ⟨digit, by simp⟩, ?_⟩
        rw [digitsValue_cons, digitsValue_nil]
        omega
    · rw [if_neg digit]
      refine iff_of_false (by simp) ?_
      rintro ⟨run, after, split, allDigits, above⟩
      cases run with
      | nil =>
        rw [digitsValue_nil] at above
        omega
      | cons d run =>
        obtain ⟨rfl, -⟩ := List.cons.inj split
        exact digit (List.forall_mem_cons.1 allDigits).1

/-- Reading digits onto a value within the bound fails at a character that is not a digit
exactly when the digits before it keep the value within the bound. -/
theorem readDigits_eq_invalidDigit_iff (within : acc ≤ bound) :
    readDigits bound digits acc = .error .invalidDigit ↔
      ∃ run c rest, digits = run ++ c :: rest ∧ (∀ x ∈ run, x.isDigit) ∧ c.isDigit = false ∧
        digitsValue acc run ≤ bound := by
  induction digits generalizing acc with
  | nil => simp [readDigits]
  | cons c rest ih =>
    simp only [readDigits]
    by_cases digit : c.isDigit
    · by_cases fits : acc * 10 + (c.toNat - '0'.toNat) ≤ bound
      · rw [if_pos digit, if_pos fits, ih fits]
        constructor
        · rintro ⟨run, d, after, rfl, allDigits, notDigit, kept⟩
          exact ⟨c :: run, d, after, rfl, List.forall_mem_cons.2 ⟨digit, allDigits⟩, notDigit,
            kept⟩
        · rintro ⟨run, d, after, split, allDigits, notDigit, kept⟩
          cases run with
          | nil =>
            obtain ⟨rfl, -⟩ := List.cons.inj split
            simp [digit] at notDigit
          | cons e run =>
            obtain ⟨rfl, rfl⟩ := List.cons.inj split
            exact ⟨run, d, after, rfl, (List.forall_mem_cons.1 allDigits).2, notDigit, kept⟩
      · rw [if_pos digit, if_neg fits]
        refine iff_of_false (by simp) ?_
        rintro ⟨run, d, after, split, allDigits, notDigit, kept⟩
        cases run with
        | nil =>
          obtain ⟨rfl, -⟩ := List.cons.inj split
          simp [digit] at notDigit
        | cons e run =>
          -- the run starts with this digit, whose value already passes the bound
          obtain ⟨rfl, -⟩ := List.cons.inj split
          have raised := le_digitsValue (acc * 10 + (c.toNat - '0'.toNat)) run
          rw [digitsValue_cons] at kept
          omega
    · rw [if_neg digit]
      exact iff_of_true rfl ⟨[], c, rest, rfl, by simp, by simpa using digit, within⟩

end Digits

/-! ### Reading numerals -/

section Numerals

variable {bound n : Nat} {text : String}

/-- Reading a numeral reads the digits after its sign, once an empty text and a lone sign are
refused. -/
theorem parseUnsigned_eq (bound : Nat) (text : String) :
    parseUnsigned bound text =
      if text = "" then .error .empty
      else if text = "+" then .error .invalidDigit
      else readDigits bound (unsignedPart text) 0 := by
  simp only [← String.toList_inj, show "".toList = [] by simp, show "+".toList = ['+'] by simp]
  unfold parseUnsigned
  split
  next empty => simp [empty]
  next sign => simp [sign]
  next minus => simp [minus, unsignedPart, readDigits]
  next digits nonempty signed =>
    have : digits ≠ [] := nonempty
    simp [signed, this, unsignedPart_of_signed signed]
  next _ notEmpty notSign _ notSigned =>
    rw [if_neg notEmpty, if_neg notSign, unsignedPart_of_unsigned notSigned]

/-- A text reads as `n` exactly when it is a numeral of value `n` within the bound. -/
theorem parseUnsigned_eq_ok_iff :
    parseUnsigned bound text = .ok n ↔ IsNumeral text n ∧ n ≤ bound := by
  rw [parseUnsigned_eq, isNumeral_iff]
  split_ifs with empty sign
  · simp [empty, unsignedPart]
  · simp [sign, unsignedPart]
  · have nonempty : unsignedPart text ≠ [] := by
      rw [Ne, unsignedPart_eq_nil_iff]
      exact fun either => either.elim empty sign
    rw [readDigits_eq_ok_iff (Nat.zero_le _)]
    simp only [nonempty, ne_eq, not_false_eq_true, true_and, and_assoc]

/-- Within the bound, a numeral of value `n` is a text that reads as `n`. -/
theorem isNumeral_iff_parseUnsigned (within : n ≤ bound) :
    IsNumeral text n ↔ parseUnsigned bound text = .ok n := by
  rw [parseUnsigned_eq_ok_iff]
  exact ⟨fun isNumeral => ⟨isNumeral, within⟩, And.left⟩

/-- Only the empty text is refused as empty. -/
theorem parseUnsigned_eq_empty_iff : parseUnsigned bound text = .error .empty ↔ text = "" := by
  rw [parseUnsigned_eq]
  split_ifs with empty sign
  · exact iff_of_true rfl empty
  · exact iff_of_false (by simp) empty
  · exact iff_of_false readDigits_ne_empty empty

/-- A text passes the bound exactly when a run of digits at the front of its unsigned part
already has a value above it. -/
theorem parseUnsigned_eq_tooLarge_iff :
    parseUnsigned bound text = .error .tooLarge ↔
      ∃ run rest, unsignedPart text = run ++ rest ∧ (∀ c ∈ run, c.isDigit) ∧
        bound < digitsValue 0 run := by
  rw [← readDigits_eq_tooLarge_iff (Nat.zero_le _), parseUnsigned_eq]
  split_ifs with empty sign
  · simp [empty, unsignedPart, readDigits]
  · simp [sign, unsignedPart, readDigits]
  · rfl

/-- A text has an invalid digit exactly when it is a lone sign, or a character of its unsigned
part that is not a digit comes before the digits pass the bound. -/
theorem parseUnsigned_eq_invalidDigit_iff :
    parseUnsigned bound text = .error .invalidDigit ↔
      text = "+" ∨ ∃ run c rest, unsignedPart text = run ++ c :: rest ∧ (∀ x ∈ run, x.isDigit) ∧
        c.isDigit = false ∧ digitsValue 0 run ≤ bound := by
  rw [← readDigits_eq_invalidDigit_iff (Nat.zero_le _), parseUnsigned_eq]
  split_ifs with empty sign
  · simp [empty, unsignedPart, readDigits]
  · simp [sign]
  · simp [sign]

end Numerals

end Cadence.Text
