/-
# JSON values up to the order of object members

A JSON document is a finite tree. Two documents are the same value when they
agree up to the order of object members at every depth, and sorting the members
of every object picks one representative of each such class. The main result
says that sorting decides sameness exactly, provided object keys are distinct.

Binary floating point numbers enter only through the text that a printer gives
them, so no arithmetic on them is modelled.
-/

import Mathlib.Data.List.Sort
import Mathlib.Data.List.Nodup
import Mathlib.Data.List.Perm.Subperm
import Mathlib.Data.String.Basic

namespace Rintawa.Lib

/-- The characters that may occur in the text of a number. -/
def isNumberChar (c : Char) : Bool :=
  c.isDigit || c == '-' || c == '+' || c == '.' || c == 'e'

/-- The characters that tell a floating point text from an integer text. -/
def isFractionChar (c : Char) : Bool :=
  c == '.' || c == 'e'

/-- A finite floating point number, represented by its shortest decimal text.
A printer always leaves a fraction or an exponent in it. -/
structure FloatText where
  chars : List Char
  onlyNumberChars : chars.all isNumberChar = true
  hasFraction : chars.any isFractionChar = true
  deriving DecidableEq

/-- A JSON number. -/
inductive JsonNumber
  | int (value : Int)
  | float (text : FloatText)
  deriving DecidableEq

/-- A JSON document. The members of an object stand in the order in which the
underlying map lists them. -/
inductive Json
  | null
  | bool (value : Bool)
  | number (value : JsonNumber)
  | string (value : String)
  | array (items : List Json)
  | object (members : List (String × Json))

namespace Json

/-- The first member stored under a key. -/
def lookup (key : String) : List (String × Json) → Option Json
  | [] => none
  | (k, v) :: rest => if k = key then some v else lookup key rest

variable {key : String} {members first second : List (String × Json)}

/-- A member that is found is there. -/
theorem mem_of_lookup {v : Json} (h : lookup key members = some v) : (key, v) ∈ members := by
  induction members with
  | nil => simp [lookup] at h
  | cons member rest ih =>
      obtain ⟨k, w⟩ := member
      simp only [lookup] at h
      split at h
      · next hkey =>
          cases h
          simp [hkey]
      · exact List.mem_cons_of_mem _ (ih h)

/-- A member that is there is found, if no name is used twice. -/
theorem lookup_of_mem {v : Json} (distinct : (members.map Prod.fst).Nodup)
    (h : (key, v) ∈ members) :
    lookup key members = some v := by
  induction members with
  | nil => simp at h
  | cons member rest ih =>
      obtain ⟨k, w⟩ := member
      simp only [List.map_cons, List.nodup_cons] at distinct
      rcases List.mem_cons.mp h with hhead | htail
      · cases hhead
        simp [lookup]
      · have hne : k ≠ key := by
          rintro rfl
          exact distinct.1 (List.mem_map_of_mem (f := Prod.fst) htail)
        simp only [lookup, if_neg hne]
        exact ih distinct.2 htail

/-! ## Distinct keys -/

mutual

/-- Every object in the document has distinct keys. -/
def uniqueKeys : Json → Bool
  | .null => true
  | .bool _ => true
  | .number _ => true
  | .string _ => true
  | .array items => uniqueKeysItems items
  | .object members =>
      decide (members.map Prod.fst).Nodup && uniqueKeysMembers members

/-- `uniqueKeys` of every item. -/
def uniqueKeysItems : List Json → Bool
  | [] => true
  | item :: rest => uniqueKeys item && uniqueKeysItems rest

/-- `uniqueKeys` of every member value. -/
def uniqueKeysMembers : List (String × Json) → Bool
  | [] => true
  | (_, value) :: rest => uniqueKeys value && uniqueKeysMembers rest

end

/-- What a member holds repeats no name either. -/
theorem uniqueKeys_of_mem_members {value : Json} (h : uniqueKeysMembers members = true)
    (hmem : (key, value) ∈ members) : uniqueKeys value = true := by
  induction members with
  | nil => simp at hmem
  | cons member rest ih =>
      obtain ⟨k, w⟩ := member
      simp only [uniqueKeysMembers, Bool.and_eq_true] at h
      rcases List.mem_cons.mp hmem with hhead | htail
      · cases hhead
        exact h.1
      · exact ih h.2 htail

/-! ## Sameness -/

mutual

/-- Equality of documents as values: objects are compared as maps. -/
def same : Json → Json → Bool
  | .null, .null => true
  | .bool a, .bool b => a == b
  | .number a, .number b => decide (a = b)
  | .string a, .string b => decide (a = b)
  | .array xs, .array ys => sameItems xs ys
  | .object xs, .object ys => xs.length == ys.length && sameMembers xs ys
  | _, _ => false

/-- Itemwise `same`. -/
def sameItems : List Json → List Json → Bool
  | [], [] => true
  | x :: xs, y :: ys => same x y && sameItems xs ys
  | _, _ => false

/-- Every member on the left has a same-valued member on the right. -/
def sameMembers : List (String × Json) → List (String × Json) → Bool
  | [], _ => true
  | (key, value) :: xs, ys =>
      (match lookup key ys with
        | some other => same value other
        | none => false) && sameMembers xs ys

end

/-! ## Canonical order -/

/-- The order in which members are sorted. -/
def keyLe (first second : String × Json) : Prop :=
  first.1 ≤ second.1

instance : DecidableRel keyLe := fun first second =>
  inferInstanceAs (Decidable (first.1 ≤ second.1))

instance : Std.Total keyLe := ⟨fun first second => le_total first.1 second.1⟩

instance : IsTrans (String × Json) keyLe := ⟨fun _ _ _ => le_trans⟩

/-- Sort object members by key. -/
def sortMembers (members : List (String × Json)) : List (String × Json) :=
  members.insertionSort keyLe

mutual

/-- Sort the members of every object of the document. -/
def canonical : Json → Json
  | .null => .null
  | .bool b => .bool b
  | .number n => .number n
  | .string s => .string s
  | .array items => .array (canonicalItems items)
  | .object members => .object (sortMembers (canonicalMembers members))

/-- Itemwise `canonical`. -/
def canonicalItems : List Json → List Json
  | [] => []
  | item :: rest => canonical item :: canonicalItems rest

/-- `canonical` of every member value. -/
def canonicalMembers : List (String × Json) → List (String × Json)
  | [] => []
  | (key, value) :: rest => (key, canonical value) :: canonicalMembers rest

end

/-- The canonical form keeps the names of members. -/
@[simp]
theorem map_fst_canonicalMembers (members : List (String × Json)) :
    (canonicalMembers members).map Prod.fst = members.map Prod.fst := by
  induction members with
  | nil => rfl
  | cons member rest ih => simp [canonicalMembers, ih]

@[simp]
theorem length_canonicalMembers (members : List (String × Json)) :
    (canonicalMembers members).length = members.length := by
  have h := congrArg List.length (map_fst_canonicalMembers members)
  rwa [List.length_map, List.length_map] at h

theorem mem_canonicalMembers {value : Json} :
    (key, value) ∈ canonicalMembers members ↔
      ∃ original, (key, original) ∈ members ∧ canonical original = value := by
  induction members with
  | nil => simp [canonicalMembers]
  | cons member rest ih =>
      obtain ⟨k, v⟩ := member
      simp only [canonicalMembers, List.mem_cons, ih, Prod.mk.injEq]
      constructor
      · rintro (⟨rfl, rfl⟩ | ⟨original, hmem, rfl⟩)
        · exact ⟨v, Or.inl ⟨rfl, rfl⟩, rfl⟩
        · exact ⟨original, Or.inr hmem, rfl⟩
      · rintro ⟨original, ⟨rfl, rfl⟩ | hmem, rfl⟩
        · exact Or.inl ⟨rfl, rfl⟩
        · exact Or.inr ⟨original, hmem, rfl⟩

/-- With distinct keys a list is determined by its members, whatever order they
arrive in. -/
theorem sortMembers_eq_of_perm (distinct : (first.map Prod.fst).Nodup) (hperm : first.Perm second) :
    sortMembers first = sortMembers second := by
  have hsorted : (sortMembers first).Perm (sortMembers second) :=
    ((List.perm_insertionSort keyLe first).trans hperm).trans
      (List.perm_insertionSort keyLe second).symm
  refine @List.Perm.eq_of_pairwise _ keyLe _ _ ?_
    (List.pairwise_insertionSort keyLe first)
    (List.pairwise_insertionSort keyLe second) hsorted
  intro a b ha hb hab hba
  have hb' : b ∈ first := by
    have := (List.mem_insertionSort keyLe).mp hb
    exact hperm.mem_iff.mpr this
  have ha' : a ∈ first := (List.mem_insertionSort keyLe).mp ha
  exact List.inj_on_of_nodup_map distinct ha' hb' (le_antisymm hab hba)

/-- Members that are sorted by distinct names determine the list up to order. -/
theorem sortMembers_eq_iff_perm (distinct : (first.map Prod.fst).Nodup) :
    sortMembers first = sortMembers second ↔ first.Perm second := by
  constructor
  · intro heq
    have hfirst := List.perm_insertionSort keyLe first
    have hsecond := List.perm_insertionSort keyLe second
    have hmid : (first.insertionSort keyLe).Perm (second.insertionSort keyLe) := by
      rw [show first.insertionSort keyLe = second.insertionSort keyLe from heq]
    exact (hfirst.symm.trans hmid).trans hsecond
  · exact sortMembers_eq_of_perm distinct

/-- Two member lists with distinct keys and equal lengths hold the same members
once one contains the other. -/
theorem members_perm_iff (distinct : (first.map Prod.fst).Nodup) :
    first.Perm second ↔ first.length = second.length ∧ ∀ member ∈ first, member ∈ second := by
  constructor
  · exact fun hperm => ⟨hperm.length_eq, fun _ hmem => hperm.mem_iff.mp hmem⟩
  · rintro ⟨hlength, hsubset⟩
    have hsub : first.Subperm second :=
      List.subperm_of_subset (List.Nodup.of_map _ distinct) hsubset
    exact hsub.perm_of_length_le (le_of_eq hlength.symm)

mutual

/-- Sorting every object decides sameness. -/
theorem same_iff_canonical_eq : ∀ (a b : Json), uniqueKeys a = true → uniqueKeys b = true →
    (same a b = true ↔ canonical a = canonical b)
  | .null, b, _, _ => by cases b <;> simp [same, canonical]
  | .bool _, b, _, _ => by cases b <;> simp [same, canonical]
  | .number _, b, _, _ => by cases b <;> simp [same, canonical]
  | .string _, b, _, _ => by cases b <;> simp [same, canonical]
  | .array xs, b, ha, hb => by
      cases b with
      | array ys =>
          have hitems := sameItems_iff_canonical_eq xs ys
            (by simpa [uniqueKeys] using ha) (by simpa [uniqueKeys] using hb)
          simpa [same, canonical] using hitems
      | _ => simp [same, canonical]
  | .object xs, b, ha, hb => by
      cases b with
      | object ys =>
          simp only [uniqueKeys, Bool.and_eq_true, decide_eq_true_eq] at ha hb
          have hdistinct : ((canonicalMembers xs).map Prod.fst).Nodup := by
            simpa using ha.1
          have hmembers := sameMembers_iff xs ys ha.2 hb.2 hb.1
          simp only [same, canonical, Bool.and_eq_true, beq_iff_eq, hmembers,
            Json.object.injEq, sortMembers_eq_iff_perm hdistinct,
            members_perm_iff hdistinct, length_canonicalMembers]
      | _ => simp [same, canonical]

/-- Arrays are the same if their items have the same canonical forms. -/
theorem sameItems_iff_canonical_eq : ∀ (xs ys : List Json),
    uniqueKeysItems xs = true → uniqueKeysItems ys = true →
    (sameItems xs ys = true ↔ canonicalItems xs = canonicalItems ys)
  | [], ys, _, _ => by cases ys <;> simp [sameItems, canonicalItems]
  | x :: xs, ys, hx, hy => by
      cases ys with
      | nil => simp [sameItems, canonicalItems]
      | cons y ys =>
          simp only [uniqueKeysItems, Bool.and_eq_true] at hx hy
          have hhead := same_iff_canonical_eq x y hx.1 hy.1
          have htail := sameItems_iff_canonical_eq xs ys hx.2 hy.2
          simp [sameItems, canonicalItems, hhead, htail]

/-- Objects are the same if one has the canonical members of the other. -/
theorem sameMembers_iff : ∀ (xs ys : List (String × Json)),
    uniqueKeysMembers xs = true → uniqueKeysMembers ys = true →
    (ys.map Prod.fst).Nodup →
    (sameMembers xs ys = true ↔
      ∀ member ∈ canonicalMembers xs, member ∈ canonicalMembers ys)
  | [], ys, _, _, _ => by simp [sameMembers, canonicalMembers]
  | (key, value) :: xs, ys, hx, hy, hdistinct => by
      simp only [uniqueKeysMembers, Bool.and_eq_true] at hx
      have htail := sameMembers_iff xs ys hx.2 hy hdistinct
      have hhead : (match lookup key ys with
            | some other => same value other
            | none => false) = true ↔ (key, canonical value) ∈ canonicalMembers ys := by
        rw [mem_canonicalMembers]
        constructor
        · intro h
          cases hfound : lookup key ys with
          | none => simp [hfound] at h
          | some other =>
              have hmem := mem_of_lookup hfound
              have hkeys := uniqueKeys_of_mem_members hy hmem
              have hsame := same_iff_canonical_eq value other hx.1 hkeys
              exact ⟨other, hmem, (hsame.mp (by simpa [hfound] using h)).symm⟩
        · rintro ⟨other, hmem, heq⟩
          have hkeys := uniqueKeys_of_mem_members hy hmem
          have hsame := same_iff_canonical_eq value other hx.1 hkeys
          simp [lookup_of_mem hdistinct hmem, hsame.mpr heq.symm]
      simp only [sameMembers, Bool.and_eq_true, hhead, htail, canonicalMembers,
        List.mem_cons, forall_eq_or_imp]

end

end Json

/-- A document whose objects are maps: no key occurs twice in one object. -/
structure JsonValue where
  json : Json
  distinct : json.uniqueKeys = true

namespace JsonValue

/-- Equality of values, blind to the order of object members. -/
def same (a b : JsonValue) : Bool :=
  a.json.same b.json

/-- Values are the same if they have the same canonical form. -/
theorem same_iff {a b : JsonValue} :
    a.same b = true ↔ a.json.canonical = b.json.canonical :=
  Json.same_iff_canonical_eq a.json b.json a.distinct b.distinct

theorem same_refl (a : JsonValue) : a.same a = true :=
  same_iff.mpr rfl

end JsonValue

end Rintawa.Lib
