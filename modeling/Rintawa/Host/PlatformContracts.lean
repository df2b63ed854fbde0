/-
# Contracts of the platform

Providers of world systems, effects, projections and content handlers are found through
contracts whose names are made of the family and of the schema or content type. The last dot
of a name stands before the version, so the name determines all of them.
-/

import Rintawa.Artifacts.Manifest
import Rintawa.Sdk.VersionedTexts

namespace Rintawa.Host

open Rintawa.Lib Rintawa.Sdk

/-! ## Families -/

/-- The families of platform contracts. -/
inductive ServiceFamily
  | worldSystem | worldEffect | worldProjection | contentHandler
  deriving DecidableEq, Repr

/-- How the names of a family start. -/
def ServiceFamily.start : ServiceFamily → String
  | .worldSystem => "rintawa.world.system."
  | .worldEffect => "rintawa.world.effect."
  | .worldProjection => "rintawa.world.projection."
  | .contentHandler => "rintawa.content.handler."

/-- The version of the protocol of a family. -/
def ServiceFamily.protocolVersion : ServiceFamily → Nat
  | .worldSystem => 1
  | .worldEffect => 1
  | .worldProjection => 1
  | .contentHandler => 1

/-- The contract of a family for one identifier and version. -/
def serviceContractKey (family : ServiceFamily) (id : String) (version : Nat) : ContractKey :=
  ⟨⟨family.start ++ id ++ ".v" ++ toString version⟩, family.protocolVersion⟩

def worldSystemServiceContractKey (commandSchema : SchemaKey) : ContractKey :=
  serviceContractKey .worldSystem commandSchema.id.asStr commandSchema.version.get

def worldEffectServiceContractKey (effectSchema : SchemaKey) : ContractKey :=
  serviceContractKey .worldEffect effectSchema.id.asStr effectSchema.version.get

def worldProjectionServiceContractKey (projectionSchema : SchemaKey) : ContractKey :=
  serviceContractKey .worldProjection projectionSchema.id.asStr projectionSchema.version.get

def contentHandlerServiceContractKey (contentId : String) (contentMajor : UInt32) :
    ContractKey :=
  serviceContractKey .contentHandler contentId contentMajor.toNat

/-! ## Names -/

/-- The families differ within the first characters of their names. -/
theorem ServiceFamily.eq_of_start_append {family family' : ServiceFamily}
    {rest rest' : List Char} (h : family.start.toList ++ rest = family'.start.toList ++ rest') :
    family = family' := by
  have hlong : ∀ family : ServiceFamily, 15 ≤ family.start.toList.length := by
    intro family
    cases family with
    | worldSystem | worldEffect | worldProjection | contentHandler => decide +kernel
  have htake : family.start.toList.take 15 = family'.start.toList.take 15 := by
    have hsame := congrArg (List.take 15) h
    rwa [List.take_append_of_le_length (hlong family),
      List.take_append_of_le_length (hlong family')] at hsame
  revert htake
  cases family <;> cases family' <;> decide +kernel

theorem toList_serviceContractKey (family : ServiceFamily) (id : String) (version : Nat) :
    (serviceContractKey family id version).id.asStr.toList =
      (family.start.toList ++ id.toList) ++ '.' :: 'v' :: Nat.toDigits 10 version := by
  have hmarker : ".v".toList = ['.', 'v'] := rfl
  rw [serviceContractKey]
  dsimp only
  rw [String.toList_append, String.toList_append, String.toList_append, toList_toString, hmarker,
    List.append_assoc _ ['.', 'v']]
  rfl

/-- The name of a contract determines the family, the identifier and the version. Versions have no
dots, so two equal names are cut at the same place. -/
theorem serviceContractKey_inj {family family' : ServiceFamily} {id id' : String}
    {version version' : Nat}
    (h : serviceContractKey family id version = serviceContractKey family' id' version') :
    family = family' ∧ id = id' ∧ version = version' := by
  have hchars := congrArg (fun key => key.id.asStr.toList) h
  simp only [toList_serviceContractKey] at hchars
  have hversion : ∀ number, '.' ∉ 'v' :: Nat.toDigits 10 number := by
    intro number hmem
    cases List.mem_cons.mp hmem with
    | inl hmarker => revert hmarker; decide
    | inr hdigit => exact not_mem_toDigits (by decide) number hdigit
  obtain ⟨hname, hdigits⟩ := append_cons_inj hchars (hversion version) (hversion version')
  have hfamily := ServiceFamily.eq_of_start_append hname
  rw [hfamily] at hname
  exact ⟨hfamily, String.toList_inj.mp (List.append_cancel_left hname),
    toDigits_injective (List.cons.inj hdigits).2⟩

/-! ## Contracts -/

/-- What a platform contract is for. -/
inductive PlatformContract
  | worldSystem (commandSchema : SchemaKey)
  | worldEffect (effectSchema : SchemaKey)
  | worldProjection (projectionSchema : SchemaKey)
  | contentHandler (content : Artifacts.ContentType)
  deriving DecidableEq

namespace PlatformContract

/-- The contract that the host selects a provider by. -/
def key : PlatformContract → ContractKey
  | .worldSystem commandSchema => worldSystemServiceContractKey commandSchema
  | .worldEffect effectSchema => worldEffectServiceContractKey effectSchema
  | .worldProjection projectionSchema => worldProjectionServiceContractKey projectionSchema
  | .contentHandler content => contentHandlerServiceContractKey content.id content.major

def family : PlatformContract → ServiceFamily
  | .worldSystem _ => .worldSystem
  | .worldEffect _ => .worldEffect
  | .worldProjection _ => .worldProjection
  | .contentHandler _ => .contentHandler

/-- The identifier and the version of a schema or content type. -/
def subject : PlatformContract → String × Nat
  | .worldSystem schema | .worldEffect schema | .worldProjection schema =>
      (schema.id.asStr, schema.version.get)
  | .contentHandler content => (content.id, content.major.toNat)

theorem key_eq (contract : PlatformContract) :
    contract.key = serviceContractKey contract.family contract.subject.1 contract.subject.2 := by
  cases contract with
  | worldSystem | worldEffect | worldProjection | contentHandler => rfl

theorem eq_of_family_subject {first second : PlatformContract}
    (hfamily : first.family = second.family) (hid : first.subject.1 = second.subject.1)
    (hversion : first.subject.2 = second.subject.2) : first = second := by
  cases first with
  | worldSystem schema =>
      cases second with
      | worldSystem schema' => rw [SchemaKey.ext_columns hid hversion]
      | worldEffect | worldProjection | contentHandler => cases hfamily
  | worldEffect schema =>
      cases second with
      | worldEffect schema' => rw [SchemaKey.ext_columns hid hversion]
      | worldSystem | worldProjection | contentHandler => cases hfamily
  | worldProjection schema =>
      cases second with
      | worldProjection schema' => rw [SchemaKey.ext_columns hid hversion]
      | worldSystem | worldEffect | contentHandler => cases hfamily
  | contentHandler content =>
      cases second with
      | contentHandler content' =>
          obtain ⟨id, major, _⟩ := content
          obtain ⟨id', major', _⟩ := content'
          cases hid
          cases UInt32.toNat_inj.mp hversion
          rfl
      | worldSystem | worldEffect | worldProjection => cases hfamily

/-- Contracts for different families, schemas or content types have different keys. -/
theorem keys_never_collide (first second : PlatformContract) :
    first.key = second.key ↔ first = second := by
  constructor
  · intro h
    rw [key_eq, key_eq] at h
    obtain ⟨hfamily, hid, hversion⟩ := serviceContractKey_inj h
    exact eq_of_family_subject hfamily hid hversion
  · intro h
    rw [h]

end PlatformContract

end Rintawa.Host
