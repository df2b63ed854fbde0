/-
# Decimal numerals

A numeral without a sign and without leading zeros is the text of the number that it stands
for. Parsing is more generous: it takes a plus sign and any number of leading zeros.
-/

import Mathlib.Data.List.Induction
import Mathlib.Tactic.IntervalCases
import Rintawa.Lib.JsonText

namespace Rintawa.Lib

/-! ## Separators -/

/-- A text is cut at the last separator in one way only. -/
theorem append_cons_inj {α : Type} {separator : α} {before before' after after' : List α}
    (h : before ++ separator :: after = before' ++ separator :: after')
    (hafter : separator ∉ after) (hafter' : separator ∉ after') :
    before = before' ∧ after = after' := by
  rcases List.append_eq_append_iff.mp h with ⟨middle, rfl, heq⟩ | ⟨middle, rfl, heq⟩
  · cases middle with
    | nil => exact ⟨(List.append_nil before).symm, (List.cons.inj heq).2⟩
    | cons first rest =>
        refine absurd ?_ hafter
        rw [(List.cons.inj heq).2]
        exact List.mem_append_right rest List.mem_cons_self
  · cases middle with
    | nil => exact ⟨List.append_nil before', (List.cons.inj heq).2.symm⟩
    | cons first rest =>
        refine absurd ?_ hafter'
        rw [(List.cons.inj heq).2]
        exact List.mem_append_right rest List.mem_cons_self

/-! ## Numerals -/

/-- Digits that may have leading zeros. -/
def IsNumeral (digits : List Char) : Prop :=
  digits ≠ [] ∧ ∀ c ∈ digits, c.isDigit = true

instance (digits : List Char) : Decidable (IsNumeral digits) :=
  decidable_of_iff (digits ≠ [] ∧ digits.all Char.isDigit = true)
    (and_congr_right' List.all_eq_true)

/-- The number that digits stand for. -/
def numeralValue (digits : List Char) : Nat := Nat.ofDigitChars 10 digits 0

/-- The digits of a number are a numeral. -/
theorem isNumeral_toDigits (n : Nat) : IsNumeral (Nat.toDigits 10 n) :=
  ⟨Nat.toDigits_ne_nil, fun _ hc => isDigit_of_mem_toDigits hc⟩

/-- The numeral of a number has its value. -/
@[simp]
theorem numeralValue_toDigits (n : Nat) : numeralValue (Nat.toDigits 10 n) = n :=
  Nat.ofDigitChars_ten_toDigits

variable {c : Char} {n limit : Nat} {text : List Char}

/-- No character that is not a digit is in the text of a number. -/
theorem not_mem_toDigits (hc : c.isDigit = false) (n : Nat) : c ∉ Nat.toDigits 10 n := by
  intro hmem
  rw [isDigit_of_mem_toDigits hmem] at hc
  cases hc

/-- A number is displayed as its digits. -/
theorem toList_toString (n : Nat) : (toString n).toList = Nat.toDigits 10 n :=
  Nat.toList_repr

/-- After the same text different numbers are displayed differently. -/
theorem append_toString_injective (start : String) :
    Function.Injective fun n : Nat => start ++ toString n := by
  intro n other hsame
  have hchars := congrArg String.toList hsame
  rw [String.toList_append, String.toList_append, toList_toString, toList_toString] at hchars
  exact toDigits_injective (List.append_cancel_left hchars)

/-- The text of a positive number has no leading zero. -/
theorem head?_toDigits (hn : 0 < n) : (Nat.toDigits 10 n).head? ≠ some '0' := by
  induction n using Nat.strong_induction_on with
  | _ n ih =>
      rw [Nat.toDigits_eq_if (by decide)]
      split
      · next hsmall =>
          rw [List.head?_cons]
          interval_cases n <;> decide
      · next hlarge =>
          have hquotient : 0 < n / 10 := by omega
          rw [List.head?_append_of_ne_nil _ Nat.toDigits_ne_nil]
          exact ih (n / 10) (by omega) hquotient

theorem numeralValue_pos {digits : List Char} (hc : c.isDigit = true) (hzero : c ≠ '0') :
    0 < numeralValue (c :: digits) := by
  have hdigit : 0 < c.toNat - '0'.toNat := by
    simp only [Char.isDigit, Bool.and_eq_true, decide_eq_true_eq] at hc
    have hne : c.toNat ≠ '0'.toNat := fun h => hzero (Char.toNat_inj.mp h)
    have hle : '0'.toNat ≤ c.toNat := hc.1
    omega
  rw [numeralValue, Nat.ofDigitChars_cons, Nat.ofDigitChars_eq_ofDigitChars_zero]
  exact Nat.add_pos_left (Nat.mul_pos (Nat.pow_pos (by decide)) (by omega)) _

/-- A digit is the digit of its value. -/
theorem digitChar_of_isDigit (hc : c.isDigit = true) :
    c.toNat - '0'.toNat < 10 ∧ Nat.digitChar (c.toNat - '0'.toNat) = c := by
  simp only [Char.isDigit, Bool.and_eq_true, decide_eq_true_eq] at hc
  have hlower : 48 ≤ c.toNat := hc.1
  have hupper : c.toNat ≤ 57 := hc.2
  constructor
  · change c.toNat - 48 < 10
    omega
  · have hvalue : ∀ value, 48 ≤ value → value ≤ 57 →
        Nat.digitChar (value - 48) = Char.ofNat value := by
      intro value hle hge
      interval_cases value <;> rfl
    change Nat.digitChar (c.toNat - 48) = c
    rw [hvalue c.toNat hlower hupper]
    exact Char.ofNat_toNat c

/-- A numeral without leading zeros is the text of its number. -/
theorem toDigits_numeralValue {digits : List Char} (h : IsNumeral digits)
    (hlead : 1 < digits.length → digits.head? ≠ some '0') :
    Nat.toDigits 10 (numeralValue digits) = digits := by
  obtain ⟨hnonempty, hdigits⟩ := h
  induction digits using List.reverseRecOn with
  | nil => exact absurd rfl hnonempty
  | append_singleton init last ih =>
      obtain ⟨hvalue, hchar⟩ := digitChar_of_isDigit
        (hdigits last (List.mem_append_right init List.mem_cons_self))
      cases init with
      | nil =>
          rw [List.nil_append, numeralValue, Nat.ofDigitChars_cons, Nat.ofDigitChars_nil,
            Nat.mul_zero, Nat.zero_add, Nat.toDigits_of_lt_base hvalue, hchar]
      | cons first rest =>
          have hfirst : first ≠ '0' := by
            intro hzero
            refine hlead ?_ (by rw [hzero]; rfl)
            rw [List.length_append, List.length_cons, List.length_singleton]
            omega
          have hinit : Nat.toDigits 10 (numeralValue (first :: rest)) = first :: rest := by
            refine ih (fun _ => ?_) nofun fun c hc => hdigits c (List.mem_append_left _ hc)
            rw [List.head?_cons]
            exact fun hsame => hfirst (Option.some.inj hsame)
          have hpos : 0 < numeralValue (first :: rest) :=
            numeralValue_pos (hdigits first List.mem_cons_self) hfirst
          have hsplit : numeralValue (first :: rest ++ [last]) =
              10 * numeralValue (first :: rest) + (last.toNat - '0'.toNat) := by
            rw [numeralValue, Nat.ofDigitChars_append, Nat.ofDigitChars_cons,
              Nat.ofDigitChars_nil]
            rfl
          rw [hsplit, ← Nat.toDigits_append_toDigits (by decide) hpos hvalue, hinit,
            Nat.toDigits_of_lt_base hvalue, hchar]

/-! ## Parsing -/

/-- The digits of an unsigned number, after a plus sign if there is one. -/
def unsignedDigits : List Char → List Char
  | '+' :: digits => digits
  | digits => digits

/-- Parse a number below a limit. -/
def parseUnsigned (limit : Nat) (text : List Char) : Option Nat :=
  if IsNumeral (unsignedDigits text) ∧ numeralValue (unsignedDigits text) < limit then
    some (numeralValue (unsignedDigits text))
  else none

/-- A number is read from a numeral whose value is below the limit. -/
theorem parseUnsigned_eq_some_iff :
    parseUnsigned limit text = some n ↔
      IsNumeral (unsignedDigits text) ∧ numeralValue (unsignedDigits text) = n ∧ n < limit := by
  rw [parseUnsigned]
  split
  · next h =>
      constructor
      · intro hsome
        cases hsome
        exact ⟨h.1, rfl, h.2⟩
      · intro hvalue
        rw [hvalue.2.1]
  · next h =>
      constructor
      · nofun
      · intro hvalue
        exact absurd ⟨hvalue.1, hvalue.2.1 ▸ hvalue.2.2⟩ h

/-- Digits without a sign stand for themselves. -/
theorem unsignedDigits_of_isNumeral (h : IsNumeral text) : unsignedDigits text = text := by
  unfold unsignedDigits
  split
  · next digits =>
      exact absurd (h.2 '+' List.mem_cons_self) (by decide)
  · rfl

/-- A number is read back from its digits. -/
@[simp]
theorem parseUnsigned_toDigits (hn : n < limit) :
    parseUnsigned limit (Nat.toDigits 10 n) = some n := by
  rw [parseUnsigned_eq_some_iff, unsignedDigits_of_isNumeral (isNumeral_toDigits n)]
  exact ⟨isNumeral_toDigits n, numeralValue_toDigits n, hn⟩

/-- A character that is neither a digit nor a plus sign is in no text of a number. -/
theorem not_mem_of_parseUnsigned (hdigit : c.isDigit = false) (hplus : c ≠ '+')
    (h : parseUnsigned limit text = some n) : c ∉ text := by
  intro hmem
  obtain ⟨hnumeral, -, -⟩ := parseUnsigned_eq_some_iff.mp h
  have hdigits : c ∈ unsignedDigits text := by
    unfold unsignedDigits
    split
    · exact (List.mem_cons.mp hmem).resolve_left hplus
    · exact hmem
  rw [hnumeral.2 c hdigits] at hdigit
  cases hdigit

/-- A number that was parsed is written as it was when there were neither a sign nor leading
zeros. -/
theorem toDigits_of_parseUnsigned (h : parseUnsigned limit text = some n) :
    Nat.toDigits 10 n = text ↔
      text.head? ≠ some '+' ∧ (1 < text.length → text.head? ≠ some '0') := by
  obtain ⟨hnumeral, hvalue, -⟩ := parseUnsigned_eq_some_iff.mp h
  constructor
  · intro hsame
    constructor
    · intro hplus
      refine not_mem_toDigits (c := '+') (by decide) n ?_
      rw [hsame]
      exact List.mem_of_mem_head? hplus
    · intro hlength
      rw [← hsame] at hlength ⊢
      refine head?_toDigits (Nat.pos_of_ne_zero fun hzero => ?_)
      rw [hzero] at hlength
      revert hlength
      decide
  · intro hplain
    have hdigits : unsignedDigits text = text := by
      unfold unsignedDigits
      split
      · exact absurd rfl hplain.1
      · rfl
    rw [hdigits] at hnumeral hvalue
    rw [← hvalue]
    exact toDigits_numeralValue hnumeral hplain.2

end Rintawa.Lib
