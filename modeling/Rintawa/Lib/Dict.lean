/-
# Finite maps

A map is an association list without repeated keys. The library of association
lists has lookup, insertion and erasure; kept here are the operations on all
entries at once, each with the lookup that characterizes it.
-/

import Mathlib.Data.List.AList

namespace Rintawa.Lib

universe u v w

/-- A finite map. -/
abbrev Dict (K : Type u) (V : Type v) : Type (max u v) :=
  AList fun _ : K => V

namespace Dict

variable {K : Type u} {V : Type v} {W : Type w}

/-- The entries of a map as pairs. -/
def pairs (d : Dict K V) : List (K × V) :=
  d.entries.map fun entry => (entry.1, entry.2)

/-- The values of a map. -/
def values (d : Dict K V) : List V :=
  d.entries.map fun entry => entry.2

/-- Keep the entries that pass a test. -/
def retain (keep : K → V → Bool) (d : Dict K V) : Dict K V where
  entries := d.entries.filter fun entry => keep entry.1 entry.2
  nodupKeys := d.nodupKeys.sublist List.filter_sublist

/-- Change every value. -/
def mapValues (f : K → V → W) (d : Dict K V) : Dict K W where
  entries := d.entries.map fun entry => ⟨entry.1, f entry.1 entry.2⟩
  nodupKeys := by
    have hkeys : (d.entries.map fun entry =>
        (⟨entry.1, f entry.1 entry.2⟩ : Sigma fun _ : K => W)).keys = d.entries.keys := by
      simp [List.keys, Function.comp_def]
    rw [List.NodupKeys, hkeys]
    exact d.nodupKeys

variable [DecidableEq K]

/-- Change the value under one key. -/
def modify (d : Dict K V) (k : K) (f : V → V) : Dict K V :=
  d.mapValues fun key value => if key = k then f value else value

/-- Remove the entries of several keys. -/
def eraseAll (d : Dict K V) (keys : List K) : Dict K V :=
  keys.foldl (fun rest key => rest.erase key) d

variable {value : V}

/-- The pairs of a dictionary are what its keys are looked up to. -/
theorem mem_pairs_iff {d : Dict K V} {k : K} : (k, value) ∈ d.pairs ↔ d.lookup k = some value := by
  rw [← Option.mem_def, AList.mem_lookup_iff, pairs, List.mem_map]
  constructor
  · rintro ⟨⟨key, other⟩, hmem, heq⟩
    cases heq
    exact hmem
  · exact fun hmem => ⟨_, hmem, rfl⟩

/-- Every value is found under some key. -/
theorem mem_values_iff {d : Dict K V} : value ∈ d.values ↔ ∃ k, d.lookup k = some value := by
  simp only [values, List.mem_map, ← Option.mem_def, AList.mem_lookup_iff]
  constructor
  · rintro ⟨⟨key, other⟩, hmem, rfl⟩
    exact ⟨key, hmem⟩
  · rintro ⟨key, hmem⟩
    exact ⟨_, hmem, rfl⟩

/-- Only the entries to keep are found. -/
theorem lookup_retain (keep : K → V → Bool) (d : Dict K V) (k : K) :
    (d.retain keep).lookup k = (d.lookup k).filter (keep k) := by
  apply Option.ext
  intro value
  rw [Option.filter_eq_some_iff, ← Option.mem_def, ← Option.mem_def, AList.mem_lookup_iff,
    AList.mem_lookup_iff]
  simp [retain]

/-- A value is changed where it is found. -/
theorem lookup_mapValues (f : K → V → W) (d : Dict K V) (k : K) :
    (d.mapValues f).lookup k = (d.lookup k).map (f k) := by
  apply Option.ext
  intro value
  rw [Option.map_eq_some_iff, ← Option.mem_def, AList.mem_lookup_iff]
  simp only [mapValues, List.mem_map, ← Option.mem_def, AList.mem_lookup_iff]
  constructor
  · rintro ⟨⟨key, other⟩, hmem, heq⟩
    cases heq
    exact ⟨other, hmem, rfl⟩
  · rintro ⟨other, hmem, rfl⟩
    exact ⟨_, hmem, rfl⟩

/-- An insertion matters to its own key only. -/
theorem lookup_insert_ite (d : Dict K V) (k other : K) (value : V) :
    (d.insert k value).lookup other = if other = k then some value else d.lookup other := by
  split
  · next heq => rw [heq, AList.lookup_insert]
  · next hne => rw [AList.lookup_insert_ne hne]

/-- Erasing a key matters to no other. -/
theorem lookup_erase_ite (d : Dict K V) (k other : K) :
    (d.erase k).lookup other = if other = k then none else d.lookup other := by
  split
  · next heq => rw [heq, AList.lookup_erase]
  · next hne => rw [AList.lookup_erase_ne hne]

/-- What is in the lists of a dictionary after one more entry in one of them. -/
theorem mem_insert_append {d : Dict K (List V)} {k other : K} {entry : V} {values : List V}
    (hlookup : AList.lookup other (d.insert k ((d.lookup k).getD [] ++ [value])) = some values)
    (hmem : entry ∈ values) :
    (∃ before, d.lookup other = some before ∧ entry ∈ before) ∨ other = k ∧ entry = value := by
  rw [lookup_insert_ite] at hlookup
  split at hlookup
  · next heq =>
      subst heq
      cases hlookup
      rcases List.mem_append.mp hmem with hbefore | hnew
      · cases hvalues : d.lookup other with
        | none => simp [hvalues] at hbefore
        | some before => exact .inl ⟨before, rfl, by simpa [hvalues] using hbefore⟩
      · exact .inr ⟨rfl, List.mem_singleton.mp hnew⟩
  · exact .inl ⟨values, hlookup, hmem⟩

/-- Erasing a new entry gives the map back. -/
theorem erase_insert {d : Dict K V} {k : K} (hnone : d.lookup k = none) (value : V) :
    (d.insert k value).erase k = d := by
  have habsent : k ∉ d.entries.keys := by
    change k ∉ d
    rw [← AList.lookup_isSome, hnone]
    simp
  apply AList.ext
  change List.kerase k (List.kinsert k value d.entries) = d.entries
  rw [List.kinsert_def, List.kerase_of_notMem_keys habsent]
  exact List.kerase_cons_eq rfl

/-- The number of entries after one was put in. -/
theorem length_insert {d : Dict K V} {key : K} (value : V) :
    (d.insert key value).entries.length =
      if (AList.lookup key d).isSome then d.entries.length else d.entries.length + 1 := by
  have hkeys : (d.insert key value).entries.length =
      (d.entries.keys.erase key).length + 1 := by
    rw [AList.entries_insert, List.length_cons, ← List.keys_kerase, List.keys, List.length_map]
  have hlength : d.entries.keys.length = d.entries.length := List.length_map _
  rw [hkeys]
  split
  · next hsome =>
      have hmem : key ∈ d.entries.keys := AList.lookup_isSome.mp hsome
      have hpositive := List.length_pos_of_mem hmem
      rw [List.length_erase_of_mem hmem]
      omega
  · next hnone =>
      have hmem : key ∉ d.entries.keys := fun hmem => hnone (AList.lookup_isSome.mpr hmem)
      rw [List.erase_of_not_mem hmem, hlength]

/-- A new entry adds its value. -/
theorem values_insert {d : Dict K V} {k : K} (hnone : d.lookup k = none) (value : V) :
    values (d.insert k value) = value :: d.values := by
  have habsent : k ∉ d := by
    rw [← AList.lookup_isSome, hnone]
    exact Bool.false_ne_true
  unfold values
  rw [AList.entries_insert_of_notMem habsent]
  rfl

/-- Erasing an entry takes its value out. -/
theorem values_erase {d : Dict K V} {k : K} (hsome : d.lookup k = some value) :
    d.values.Perm (value :: values (d.erase k)) := by
  have hmem : k ∈ d.entries.keys := by
    change k ∈ d
    rw [← AList.lookup_isSome, hsome]
    rfl
  obtain ⟨other, before, after, habsent, hentries, herased⟩ := List.exists_of_kerase hmem
  have hvalue : other = value := by
    have hfound : (⟨k, other⟩ : Sigma fun _ => V) ∈ d.entries := by
      rw [hentries]
      exact List.mem_append_right _ List.mem_cons_self
    have hlookup := AList.mem_lookup_iff.mpr hfound
    rw [hsome] at hlookup
    exact (Option.some.inj hlookup).symm
  have hrest : (d.erase k).entries = before ++ after := herased
  unfold values
  rw [hentries, hrest, List.map_append, List.map_append, List.map_cons, hvalue]
  exact List.perm_middle

/-- Keys that are erased are found no more. -/
theorem lookup_eraseAll (d : Dict K V) (keys : List K) (k : K) :
    (d.eraseAll keys).lookup k = if k ∈ keys then none else d.lookup k := by
  induction keys generalizing d with
  | nil => simp [eraseAll]
  | cons key rest ih =>
      have hstep : d.eraseAll (key :: rest) = eraseAll (d.erase key) rest := rfl
      rw [hstep, ih, lookup_erase_ite]
      by_cases hrest : k ∈ rest
      · simp [hrest]
      · simp [hrest]

/-! ## Maps of maps -/

variable {A : Type u} {B : Type v} {C : Type w} [DecidableEq A] [DecidableEq B]

/-- What is looked up in a map. -/
def lookups (d : Dict B C) : B → Option C :=
  fun key => d.lookup key

/-- Maps of maps with the same entries. Whether a map is there counts, also an empty one. -/
def SameNested (left right : Dict A (Dict B C)) : Prop :=
  ∀ key, (left.lookup key).map lookups = (right.lookup key).map lookups

namespace SameNested

variable {left right : Dict A (Dict B C)}

theorem refl (maps : Dict A (Dict B C)) : SameNested maps maps :=
  fun _ => rfl

/-- The inner maps have the same entries. -/
theorem inner (h : SameNested left right) (key : A) (other : B) :
    ((left.lookup key).getD ∅).lookup other = ((right.lookup key).getD ∅).lookup other := by
  have hkey := h key
  cases hleft : left.lookup key with
  | none =>
      rw [hleft] at hkey
      cases hright : right.lookup key with
      | none => rfl
      | some value =>
          rw [hright] at hkey
          cases hkey
  | some value =>
      rw [hleft] at hkey
      cases hright : right.lookup key with
      | none =>
          rw [hright] at hkey
          cases hkey
      | some value' =>
          rw [hright] at hkey
          exact congrFun (Option.some.inj hkey) other

end SameNested

/-- Whether a map is empty only depends on what is looked up in it. -/
theorem entries_eq_nil_iff {d : Dict B C} : d.entries = [] ↔ ∀ key, d.lookup key = none := by
  constructor
  · intro hempty key
    have hnew : d = ∅ := AList.ext hempty
    rw [hnew]
    rfl
  · intro hnone
    rw [List.eq_nil_iff_forall_not_mem]
    intro entry hentry
    have hlookup : d.lookup entry.1 = some entry.2 :=
      mem_pairs_iff.mp (List.mem_map_of_mem hentry)
    rw [hnone] at hlookup
    cases hlookup

/-- What is looked up in an inner map after one of them was put in. -/
theorem inner_insert (maps : Dict A (Dict B C)) (key other : A) (value : Dict B C) (innerKey : B) :
    (((maps.insert key value).lookup other).getD ∅).lookup innerKey =
      if other = key then value.lookup innerKey
      else ((maps.lookup other).getD ∅).lookup innerKey := by
  rw [lookup_insert_ite]
  split <;> rfl

/-- What is looked up in an inner map after one of them was removed. -/
theorem inner_erase (maps : Dict A (Dict B C)) (key other : A) (innerKey : B) :
    (((maps.erase key).lookup other).getD ∅).lookup innerKey =
      if other = key then none else ((maps.lookup other).getD ∅).lookup innerKey := by
  rw [lookup_erase_ite]
  split <;> rfl

/-- Maps of maps none of which is empty. -/
def Tidy (maps : Dict A (Dict B C)) : Prop :=
  ∀ key inner, maps.lookup key = some inner → inner.entries ≠ []

namespace Tidy

variable {maps : Dict A (Dict B C)}

omit [DecidableEq B] in
/-- Tidy dictionaries stay tidy if what is inserted is not empty. -/
theorem insert (h : Tidy maps) (key : A) {value : Dict B C} (hvalue : value.entries ≠ []) :
    Tidy (maps.insert key value) := by
  intro other inner hlookup
  rw [lookup_insert_ite] at hlookup
  split at hlookup
  · cases hlookup
    exact hvalue
  · exact h other inner hlookup

omit [DecidableEq B] in
/-- Tidy dictionaries stay tidy without one of them. -/
theorem erase (h : Tidy maps) (key : A) : Tidy (maps.erase key) := by
  intro other inner hlookup
  rw [lookup_erase_ite] at hlookup
  split at hlookup
  · cases hlookup
  · exact h other inner hlookup

/-- A map that is not there is one without entries. -/
theorem lookup_eq_none_iff (h : Tidy maps) (key : A) :
    maps.lookup key = none ↔ ∀ other, ((maps.lookup key).getD ∅).lookup other = none := by
  cases hmap : maps.lookup key with
  | none => exact ⟨fun _ _ => rfl, fun _ => rfl⟩
  | some inner =>
      constructor
      · intro hnone
        cases hnone
      · exact fun hnone => absurd (entries_eq_nil_iff.mpr hnone) (h key inner hmap)

/-- Tidy maps with the same inner entries have the same entries. -/
theorem sameNested {left right : Dict A (Dict B C)} (hleft : Tidy left) (hright : Tidy right)
    (hinner : ∀ key other,
      ((left.lookup key).getD ∅).lookup other = ((right.lookup key).getD ∅).lookup other) :
    SameNested left right := by
  intro key
  have hnone : left.lookup key = none ↔ right.lookup key = none := by
    rw [hleft.lookup_eq_none_iff, hright.lookup_eq_none_iff]
    exact forall_congr' fun other => by rw [hinner key other]
  have hvalues := hinner key
  cases hl : left.lookup key with
  | none => rw [hnone.mp hl]
  | some value =>
      cases hr : right.lookup key with
      | none =>
          rw [hnone.mpr hr] at hl
          cases hl
      | some value' =>
          rw [hl, hr] at hvalues
          exact congrArg some (funext hvalues)

end Tidy

/-- Maps with the entries of tidy ones are tidy. -/
theorem SameNested.tidy {left right : Dict A (Dict B C)} (h : SameNested left right)
    (hright : Tidy right) : Tidy left := by
  intro key value hlookup hempty
  have hkey := h key
  rw [hlookup] at hkey
  cases hr : right.lookup key with
  | none =>
      rw [hr] at hkey
      cases hkey
  | some value' =>
      rw [hr] at hkey
      refine hright key value' hr (entries_eq_nil_iff.mpr fun other => ?_)
      have hsame : value.lookup other = value'.lookup other :=
        congrFun (Option.some.inj hkey) other
      rw [← hsame]
      exact entries_eq_nil_iff.mp hempty other

end Dict

end Rintawa.Lib
