/-
# 128-bit identifiers and their hyphenated text

An identifier is a 128-bit word. Its text is the usual 8-4-4-4-12 grouping of 32
lowercase hexadecimal digits, and the text determines the word.
-/

import Rintawa.Lib.JsonText

namespace Rintawa.Lib

/-- A 128-bit identifier, equivalently its 16 bytes. -/
abbrev Uuid := BitVec 128

/-- A fixed number of hexadecimal digits, most significant first. -/
def fixedHex : Nat → Nat → List Char
  | 0, _ => []
  | count + 1, n => fixedHex count (n / 16) ++ [hexChar (n % 16)]

theorem hexChar_ne_hyphen : ∀ digit < 16, hexChar digit ≠ '-' := by
  decide

theorem fixedHex_length (count n : Nat) : (fixedHex count n).length = count := by
  induction count generalizing n with
  | zero => rfl
  | succ count ih => simp [fixedHex, ih]

theorem ne_hyphen_of_mem_fixedHex {count n : Nat} {c : Char} (h : c ∈ fixedHex count n) :
    c ≠ '-' := by
  induction count generalizing n with
  | zero => simp [fixedHex] at h
  | succ count ih =>
      simp only [fixedHex, List.mem_append, List.mem_singleton] at h
      rcases h with hinit | rfl
      · exact ih hinit
      · exact hexChar_ne_hyphen _ (Nat.mod_lt n (by decide))

/-- Digits of a fixed count determine a number that fits into them. -/
theorem fixedHex_injective {count m n : Nat} (hm : m < 16 ^ count) (hn : n < 16 ^ count)
    (h : fixedHex count m = fixedHex count n) : m = n := by
  induction count generalizing m n with
  | zero => simp at hm hn; omega
  | succ count ih =>
      obtain ⟨hinit, hlast⟩ := List.append_inj h (by simp [fixedHex_length])
      have hdigit : m % 16 = n % 16 := by
        have hvalue := congrArg hexValue (List.cons.inj hlast).1
        rwa [hexValue_hexChar _ (Nat.mod_lt m (by decide)),
          hexValue_hexChar _ (Nat.mod_lt n (by decide))] at hvalue
      have hquotient : m / 16 = n / 16 :=
        ih (Nat.div_lt_of_lt_mul (by rw [pow_succ] at hm; omega))
          (Nat.div_lt_of_lt_mul (by rw [pow_succ] at hn; omega)) hinit
      omega

/-- Group 32 digits as 8-4-4-4-12. -/
def hyphenate (digits : List Char) : List Char :=
  digits.take 8 ++ '-' :: ((digits.drop 8).take 4 ++ '-' :: ((digits.drop 12).take 4 ++
    '-' :: ((digits.drop 16).take 4 ++ '-' :: digits.drop 20)))

/-- Without the hyphens, the digits are left. -/
theorem filter_hyphenate {digits : List Char} (h : ∀ c ∈ digits, c ≠ '-') :
    (hyphenate digits).filter (· ≠ '-') = digits := by
  have keep : ∀ part : List Char, (∀ c ∈ part, c ∈ digits) →
      part.filter (· ≠ '-') = part := by
    intro part hpart
    rw [List.filter_eq_self]
    intro c hc
    simpa using h c (hpart c hc)
  have htake (k : Nat) (l : List Char) (hl : ∀ c ∈ l, c ∈ digits) :
      ∀ c ∈ l.take k, c ∈ digits := fun c hc => hl c (List.mem_of_mem_take hc)
  have hdrop (k : Nat) : ∀ c ∈ digits.drop k, c ∈ digits :=
    fun c hc => List.mem_of_mem_drop hc
  simp only [hyphenate, List.filter_append, List.filter_cons, ne_eq, not_true_eq_false,
    decide_false, Bool.false_eq_true, if_false]
  rw [keep _ (htake 8 _ fun _ hc => hc), keep _ (htake 4 _ (hdrop 8)),
    keep _ (htake 4 _ (hdrop 12)), keep _ (htake 4 _ (hdrop 16)), keep _ (hdrop 20)]
  have hlast : (digits.drop 16).take 4 ++ digits.drop 20 = digits.drop 16 := by
    simpa [List.drop_drop] using List.take_append_drop 4 (digits.drop 16)
  have hmiddle : (digits.drop 12).take 4 ++ digits.drop 16 = digits.drop 12 := by
    simpa [List.drop_drop] using List.take_append_drop 4 (digits.drop 12)
  have hfirst : (digits.drop 8).take 4 ++ digits.drop 12 = digits.drop 8 := by
    simpa [List.drop_drop] using List.take_append_drop 4 (digits.drop 8)
  rw [hlast, hmiddle, hfirst, List.take_append_drop]

/-- The hyphenated lowercase text of an identifier. -/
def uuidText (u : Uuid) : String :=
  String.ofList (hyphenate (fixedHex 32 u.toNat))

/-- The text of an identifier determines it. -/
theorem uuidText_injective : Function.Injective uuidText := by
  intro u v h
  have hdigits := congrArg (List.filter (· ≠ '-')) (String.ofList_injective h)
  rw [filter_hyphenate fun _ => ne_hyphen_of_mem_fixedHex,
    filter_hyphenate fun _ => ne_hyphen_of_mem_fixedHex] at hdigits
  have hbound (w : Uuid) : w.toNat < 16 ^ 32 := by
    have := w.isLt
    omega
  exact BitVec.eq_of_toNat_eq (fixedHex_injective (hbound u) (hbound v) hdigits)

end Rintawa.Lib
