/-
# Documents up to the order of object members

Two documents are the same up to order when one becomes the other by permuting the members of
objects, anywhere inside. Sorting all members picks one document of each class, so two
documents with distinct keys have one canonical form exactly when they are in one class.
-/

import Rintawa.Lib.JsonText

namespace Rintawa.Lib

namespace Json

/-- Documents that become equal by permuting members of objects. The items of arrays keep
their order. -/
inductive Reordered : Json → Json → Prop
  | refl (document : Json) : Reordered document document
  | symm {first second : Json} (h : Reordered first second) : Reordered second first
  | trans {first second third : Json} (h : Reordered first second)
      (h' : Reordered second third) : Reordered first third
  | permute {members members' : List (String × Json)} (perm : members.Perm members') :
      Reordered (.object members) (.object members')
  | item {before after : List Json} {first second : Json} (h : Reordered first second) :
      Reordered (.array (before ++ first :: after)) (.array (before ++ second :: after))
  | member {before after : List (String × Json)} {key : String} {first second : Json}
      (h : Reordered first second) :
      Reordered (.object (before ++ (key, first) :: after))
        (.object (before ++ (key, second) :: after))

/-! ## Items and members -/

theorem canonicalItems_eq_map (items : List Json) : canonicalItems items = items.map canonical := by
  induction items with
  | nil => rfl
  | cons item rest ih => rw [canonicalItems, ih, List.map_cons]

theorem canonicalMembers_eq_map (members : List (String × Json)) :
    canonicalMembers members = members.map fun member => (member.1, canonical member.2) := by
  induction members with
  | nil => rfl
  | cons member rest ih => rw [canonicalMembers, ih, List.map_cons]

/-- No member is repeated in an array if none is in its items. -/
theorem uniqueKeysItems_iff {items : List Json} :
    uniqueKeysItems items = true ↔ ∀ item ∈ items, item.uniqueKeys = true := by
  induction items with
  | nil => exact iff_of_true rfl fun _ h => absurd h List.not_mem_nil
  | cons item rest ih => rw [uniqueKeysItems, Bool.and_eq_true, ih, List.forall_mem_cons]

/-- No member is repeated inside the members of an object. -/
theorem uniqueKeysMembers_iff {members : List (String × Json)} :
    uniqueKeysMembers members = true ↔ ∀ member ∈ members, member.2.uniqueKeys = true := by
  induction members with
  | nil => exact iff_of_true rfl fun _ h => absurd h List.not_mem_nil
  | cons member rest ih => rw [uniqueKeysMembers, Bool.and_eq_true, ih, List.forall_mem_cons]

/-- The values of an object may be replaced one after the other. -/
theorem Reordered.members {members members' : List (String × Json)}
    (h : List.Forall₂ (fun first second => first.1 = second.1 ∧ Reordered first.2 second.2)
      members members') : ∀ before,
    Reordered (.object (before ++ members)) (.object (before ++ members')) := by
  induction h with
  | nil => exact fun before => .refl _
  | @cons first second rest rest' hfirst _ ih =>
      intro before
      obtain ⟨key, value⟩ := first
      obtain ⟨key', value'⟩ := second
      obtain ⟨rfl, hvalue⟩ := hfirst
      have hrest := ih (before ++ [(key, value')])
      rw [List.append_assoc, List.append_assoc] at hrest
      exact (Reordered.member hvalue).trans hrest

/-- The items of an array may be replaced one after the other. -/
theorem Reordered.items {items items' : List Json} (h : List.Forall₂ Reordered items items') :
    ∀ before, Reordered (.array (before ++ items)) (.array (before ++ items')) := by
  induction h with
  | nil => exact fun before => .refl _
  | @cons first second rest rest' hfirst _ ih =>
      intro before
      have hrest := ih (before ++ [second])
      rw [List.append_assoc, List.append_assoc] at hrest
      exact (Reordered.item hfirst).trans hrest

/-! ## Canonical forms -/

mutual

/-- A document is reordered into its canonical form. -/
theorem reordered_canonical : ∀ document : Json, Reordered document document.canonical
  | .null => .refl _
  | .bool _ => .refl _
  | .number _ => .refl _
  | .string _ => .refl _
  | .array items => by
      rw [canonical]
      exact Reordered.items (reordered_canonicalItems items) []
  | .object members => by
      rw [canonical]
      have hmembers := Reordered.members (reordered_canonicalMembers members) []
      exact hmembers.trans (.permute (List.perm_insertionSort keyLe _).symm)

/-- The items of an array are reordered one by one. -/
theorem reordered_canonicalItems : ∀ items : List Json,
    List.Forall₂ Reordered items (canonicalItems items)
  | [] => .nil
  | item :: rest => .cons (reordered_canonical item) (reordered_canonicalItems rest)

/-- The members of an object are reordered one by one. -/
theorem reordered_canonicalMembers : ∀ members : List (String × Json),
    List.Forall₂ (fun first second => first.1 = second.1 ∧ Reordered first.2 second.2)
      members (canonicalMembers members)
  | [] => .nil
  | (_, value) :: rest =>
      .cons ⟨rfl, reordered_canonical value⟩ (reordered_canonicalMembers rest)

end

variable {first second : Json}

/-- Permuting members keeps keys distinct, and does not change the canonical form. -/
theorem Reordered.invariant (h : Reordered first second) :
    (first.uniqueKeys = true ↔ second.uniqueKeys = true) ∧
      (first.uniqueKeys = true → first.canonical = second.canonical) := by
  induction h with
  | refl document => exact ⟨Iff.rfl, fun _ => rfl⟩
  | symm _ ih => exact ⟨ih.1.symm, fun hunique => (ih.2 (ih.1.mpr hunique)).symm⟩
  | trans _ _ ih ih' =>
      exact ⟨ih.1.trans ih'.1, fun hunique => (ih.2 hunique).trans (ih'.2 (ih.1.mp hunique))⟩
  | @permute members members' hperm =>
      have hkeys := hperm.map Prod.fst
      constructor
      · rw [uniqueKeys, uniqueKeys, Bool.and_eq_true, Bool.and_eq_true, decide_eq_true_eq,
          decide_eq_true_eq, uniqueKeysMembers_iff, uniqueKeysMembers_iff, hkeys.nodup_iff]
        simp only [hperm.mem_iff]
      · intro hunique
        rw [uniqueKeys, Bool.and_eq_true, decide_eq_true_eq] at hunique
        rw [canonical, canonical]
        refine congrArg Json.object (sortMembers_eq_of_perm ?_ ?_)
        · rw [map_fst_canonicalMembers]
          exact hunique.1
        · rw [canonicalMembers_eq_map, canonicalMembers_eq_map]
          exact hperm.map _
  | @item before after first second _ ih =>
      constructor
      · rw [uniqueKeys, uniqueKeys, uniqueKeysItems_iff, uniqueKeysItems_iff]
        simp only [List.forall_mem_append, List.forall_mem_cons, ih.1]
      · intro hunique
        rw [uniqueKeys, uniqueKeysItems_iff] at hunique
        have hfirst : first.uniqueKeys = true :=
          hunique first (List.mem_append_right _ List.mem_cons_self)
        rw [canonical, canonical, canonicalItems_eq_map, canonicalItems_eq_map,
          List.map_append, List.map_append, List.map_cons, List.map_cons, ih.2 hfirst]
  | @member before after key first second _ ih =>
      constructor
      · rw [uniqueKeys, uniqueKeys, Bool.and_eq_true, Bool.and_eq_true, uniqueKeysMembers_iff,
          uniqueKeysMembers_iff]
        simp only [List.forall_mem_append, List.forall_mem_cons, ih.1, List.map_append,
          List.map_cons]
      · intro hunique
        rw [uniqueKeys, Bool.and_eq_true, uniqueKeysMembers_iff] at hunique
        have hfirst : first.uniqueKeys = true :=
          hunique.2 (key, first) (List.mem_append_right _ List.mem_cons_self)
        rw [canonical, canonical, canonicalMembers_eq_map, canonicalMembers_eq_map,
          List.map_append, List.map_append, List.map_cons, List.map_cons, ih.2 hfirst]

/-- Documents with distinct keys have one canonical form exactly when they are the same up to
the order of members. -/
theorem canonical_eq_iff_reordered (h : first.uniqueKeys = true) :
    first.canonical = second.canonical ↔ Reordered first second := by
  constructor
  · intro hsame
    have hsecond := reordered_canonical second
    rw [← hsame] at hsecond
    exact (reordered_canonical first).trans hsecond.symm
  · exact fun hreordered => hreordered.invariant.2 h

/-- The text of the canonical form tells exactly the classes of documents apart. -/
theorem canonical_toText_eq_iff_reordered (h : first.uniqueKeys = true) :
    first.canonical.toText = second.canonical.toText ↔ Reordered first second := by
  rw [toText_injective.eq_iff, canonical_eq_iff_reordered h]

end Json

/-- Values are the same exactly when they are equal up to the order of members. -/
theorem JsonValue.same_iff_reordered {first second : JsonValue} :
    first.same second = true ↔ first.json.Reordered second.json := by
  rw [JsonValue.same_iff, Json.canonical_eq_iff_reordered first.distinct]

end Rintawa.Lib
