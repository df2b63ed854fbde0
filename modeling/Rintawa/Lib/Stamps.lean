/-
# Entries that are valid for one generation

An environment changes and a counter counts its changes. Entries that depend on the
environment are stamped with the count at the time they are made, and one whose stamp
is the present count is valid. A counter of bounded width only tells a stamp from the
present count while fewer changes have happened in between than it has values.
-/

import Mathlib.Data.Nat.Basic

namespace Rintawa.Lib

universe u v

variable {K : Type u} {V : Type v}

/-- No entry is stamped later than now, and entries that are stamped now are valid. -/
structure Stamped (Valid : K → V → Prop) (changes : Nat) (stamp : K → Nat)
    (entries : K → Option V) : Prop where
  past : ∀ k value, entries k = some value → stamp k ≤ changes
  current : ∀ k value, entries k = some value → stamp k = changes → Valid k value

/-- Two counts that a bounded counter does not tell apart are the same while the counter
cannot have gone round. -/
theorem eq_of_mod_eq {width first second : Nat} (hle : first ≤ second)
    (hrecent : second < first + width) (h : first % width = second % width) :
    first = second := by
  have hzero : (second - first) % width = 0 := Nat.sub_mod_eq_zero_of_mod_eq h.symm
  rw [Nat.mod_eq_of_lt (Nat.sub_lt_left_of_lt_add hle hrecent)] at hzero
  exact Nat.le_antisymm hle (Nat.sub_eq_zero_iff_le.mp hzero)

namespace Stamped

variable {Valid Valid' : K → V → Prop} {changes : Nat} {stamp : K → Nat}
  {entries : K → Option V}

/-- Without entries nothing is claimed. -/
theorem empty (hempty : ∀ k, entries k = none) : Stamped Valid changes stamp entries where
  past k value h := by cases (hempty k).symm.trans h
  current k value h := by cases (hempty k).symm.trans h

/-- A change of the environment leaves no entry that has to be valid. -/
theorem change (h : Stamped Valid changes stamp entries) :
    Stamped Valid' (changes + 1) stamp entries where
  past k value hentry := Nat.le_succ_of_le (h.past k value hentry)
  current k value hentry hstamp :=
    absurd hstamp (Nat.ne_of_lt (Nat.lt_succ_of_le (h.past k value hentry)))

/-- What is valid may be described in another way. -/
theorem mono (h : Stamped Valid changes stamp entries)
    (hvalid : ∀ k value, Valid k value → Valid' k value) :
    Stamped Valid' changes stamp entries where
  past := h.past
  current k value hentry hstamp := hvalid k value (h.current k value hentry hstamp)

/-- Entries that are made now are valid and are stamped with the present count. -/
theorem extend (h : Stamped Valid changes stamp entries) {stamp' : K → Nat}
    {entries' : K → Option V}
    (hentries : ∀ k value, entries' k = some value →
      (entries k = some value ∧ stamp' k = stamp k) ∨ (Valid k value ∧ stamp' k = changes)) :
    Stamped Valid changes stamp' entries' where
  past k value hentry := by
    rcases hentries k value hentry with ⟨hbefore, hstamp⟩ | ⟨-, hstamp⟩
    · exact hstamp ▸ h.past k value hbefore
    · exact Nat.le_of_eq hstamp
  current k value hentry hnow := by
    rcases hentries k value hentry with ⟨hbefore, hstamp⟩ | ⟨hvalid, -⟩
    · exact h.current k value hbefore (hstamp ▸ hnow)
    · exact hvalid

/-- An entry whose stamp a bounded counter takes for the present is valid, while the
counter cannot have gone round. -/
theorem valid (h : Stamped Valid changes stamp entries) {width : Nat} {k : K} {value : V}
    (hentry : entries k = some value) (hsame : stamp k % width = changes % width)
    (hrecent : changes < stamp k + width) : Valid k value :=
  h.current k value hentry (eq_of_mod_eq (h.past k value hentry) hrecent hsame)

end Stamped

end Rintawa.Lib
