/-
# Tables of handles

A table gives each of its entries a number that it has given to no entry before. The
numbers follow each other, so what was given out is known from how many there were.
-/

import Mathlib.Data.List.Range
import Rintawa.Lib.Dict

namespace Rintawa.Lib

universe u

/-- A table that gives out the numbers of a sequence, one after the other. -/
structure HandleTable (number : Nat → Nat) (V : Type u) where
  issued : Nat
  entries : Dict Nat V
  numbered : ∀ handle value, entries.lookup handle = some value →
    ∃ index < issued, handle = number index

namespace HandleTable

variable {number : Nat → Nat} {V : Type u}

/-- A table that has given out nothing. -/
def empty : HandleTable number V where
  issued := 0
  entries := ∅
  numbered handle value hlookup := by cases hlookup

variable (table : HandleTable number V)

/-- The entry of a handle. -/
def lookup (handle : Nat) : Option V :=
  table.entries.lookup handle

/-- The handle that is given out next. -/
def next : Nat :=
  number table.issued

/-- Give an entry the next handle. The counter stops below a limit. -/
def allocate (limit : Nat) (value : V) : Option (HandleTable number V) :=
  if table.issued + 1 < limit then
    some
      { issued := table.issued + 1
        entries := table.entries.insert table.next value
        numbered := by
          intro handle other hlookup
          rw [Dict.lookup_insert_ite] at hlookup
          split at hlookup
          · next heq => exact ⟨table.issued, Nat.lt_succ_self _, heq⟩
          · obtain ⟨index, hindex, heq⟩ := table.numbered handle other hlookup
            exact ⟨index, Nat.lt_succ_of_lt hindex, heq⟩ }
  else none

/-- Take an entry out. -/
def remove (handle : Nat) : HandleTable number V where
  issued := table.issued
  entries := table.entries.erase handle
  numbered other value hlookup := by
    rw [Dict.lookup_erase_ite] at hlookup
    split at hlookup
    · cases hlookup
    · exact table.numbered other value hlookup

/-- Keep the entries that pass a test. -/
def retain (keep : V → Bool) : HandleTable number V where
  issued := table.issued
  entries := table.entries.retain fun _ value => keep value
  numbered handle value hlookup := by
    rw [Dict.lookup_retain, Option.filter_eq_some_iff] at hlookup
    exact table.numbered handle value hlookup.1

/-- Change the entry of a handle. -/
def modify (handle : Nat) (f : V → V) : HandleTable number V where
  issued := table.issued
  entries := table.entries.modify handle f
  numbered other value hlookup := by
    rw [Dict.modify, Dict.lookup_mapValues, Option.map_eq_some_iff] at hlookup
    obtain ⟨before, hbefore, -⟩ := hlookup
    exact table.numbered other before hbefore

variable {table}

/-- A new entry is found under the next number. -/
theorem lookup_allocate {limit : Nat} {value : V} {table' : HandleTable number V}
    (h : table.allocate limit value = some table') (handle : Nat) :
    table'.lookup handle = if handle = table.next then some value else table.lookup handle := by
  unfold allocate at h
  split at h
  · cases h
    exact Dict.lookup_insert_ite _ _ _ _
  · cases h

/-- An allocation uses one number up. -/
theorem issued_allocate {limit : Nat} {value : V} {table' : HandleTable number V}
    (h : table.allocate limit value = some table') : table'.issued = table.issued + 1 := by
  unfold allocate at h
  split at h
  · cases h
    rfl
  · cases h

/-- A removal takes one entry away. -/
theorem lookup_remove (handle other : Nat) :
    (table.remove handle).lookup other = if other = handle then none else table.lookup other :=
  Dict.lookup_erase_ite _ _ _

/-- Only the entries to keep are found. -/
theorem lookup_retain (keep : V → Bool) (handle : Nat) :
    (table.retain keep).lookup handle = (table.lookup handle).filter keep :=
  Dict.lookup_retain _ _ _

/-- A modification changes one entry in place. -/
theorem lookup_modify (handle other : Nat) (f : V → V) :
    (table.modify handle f).lookup other =
      if other = handle then (table.lookup other).map f else table.lookup other := by
  change (table.entries.mapValues _).lookup other = _
  rw [Dict.lookup_mapValues]
  split
  · next heq => rfl
  · next hne => exact Option.map_id_apply

end HandleTable

end Rintawa.Lib
