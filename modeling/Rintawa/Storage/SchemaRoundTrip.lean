/-
# Registered schemas are read back

Registering writes a row, and opening a world decodes every row. The identifier of a schema
is checked only by the second step, so a definition with an identifier that is not canonical
is stored and the world cannot be opened again. As long as every registered definition can
be decoded, the rows mirror one registry, and a single registration and a batch both act on
the rows as a registration acts on that registry.
-/

import Rintawa.Storage.Journal

namespace Rintawa.Storage

open Rintawa.Lib Rintawa.Sdk Rintawa.World

/-! ## Registrations one by one -/

/-- The definitions that a request asks to register. -/
def Request.definitions : Request → List SchemaDefinition
  | .registerSchema _ definition => [definition]
  | .registerSchemas definitions => definitions
  | _ => []

section Each

variable {Digest : Type} (deps : Dependencies Digest)

/-- Register definitions one after another, up to the first refusal. -/
def registerEach (store : WorldStore Digest) :
    List SchemaDefinition → Except StorageError (WorldStore Digest × List SchemaRegistration)
  | [] => .ok (store, [])
  | definition :: definitions => do
      let registered ← registerSchema deps store.worldSchemas store definition
      let rest ← registerEach registered.1 definitions
      return (rest.1, registered.2 :: rest.2)

/-- The row of a definition decodes to the definition. -/
structure ReadsBack (definition : SchemaDefinition) : Prop where
  canonical : validateSchemaId definition.key.id.asStr = .ok ()
  document : deps.fromStr definition.definition.json.toText = .ok definition.definition

/-- A definition that is refused because its document is no JSON Schema, or whose row
decodes to it. -/
def Storable (definition : SchemaDefinition) : Prop :=
  ∀ validate, deps.validatorFor definition.definition = .ok validate → ReadsBack deps definition

variable {deps}

theorem ReadsBack.decodeSchema {definition : SchemaDefinition} (h : ReadsBack deps definition) :
    decodeSchema deps (schemaRow definition) = .ok definition := by
  have hkey := decodeSchemaKey_eq_ok_iff.mpr ⟨rfl, h.canonical⟩
  simp [Storage.decodeSchema, schemaRow, hkey, h.document, liftJson, bind, Except.bind, pure,
    Except.pure]

end Each

/-! ## Registries that grow -/

/-- A registry holds a definition equal to the given one. -/
def HoldsSchema (registry : SchemaRegistry) (definition : SchemaDefinition) : Prop :=
  ∃ stored, registry.get definition.key = some stored ∧ stored.same definition = true

/-- Every definition of a registry is in another one. -/
def ExtendsRegistry (registry registry' : SchemaRegistry) : Prop :=
  ∀ key stored, registry.get key = some stored → registry'.get key = some stored

theorem ExtendsRegistry.refl (registry : SchemaRegistry) : ExtendsRegistry registry registry :=
  fun _ _ => id

theorem ExtendsRegistry.trans {first second third : SchemaRegistry}
    (h : ExtendsRegistry first second) (h' : ExtendsRegistry second third) :
    ExtendsRegistry first third :=
  fun key stored hget => h' key stored (h key stored hget)

theorem HoldsSchema.extends {registry registry' : SchemaRegistry} {definition : SchemaDefinition}
    (h : HoldsSchema registry definition) (hextends : ExtendsRegistry registry registry') :
    HoldsSchema registry' definition := by
  obtain ⟨stored, hget, hsame⟩ := h
  exact ⟨stored, hextends _ _ hget, hsame⟩

section Register

variable {validatorFor : SchemaCompiler} {registry registry' : SchemaRegistry}
  {definition : SchemaDefinition} {registration : SchemaRegistration}

theorem get_snoc (registry : SchemaRegistry) (definition : SchemaDefinition)
    (validators : List (SchemaKey × Validator)) (key : SchemaKey) :
    SchemaRegistry.get ⟨registry.definitions ++ [definition], validators⟩ key =
      (registry.get key).or (if definition.key = key then some definition else none) :=
  lookupRow_snoc

/-- Registering either finds an equal definition, or adds a new one that compiles. -/
theorem register_cases (h : registry.register validatorFor definition =
    .ok (registry', registration)) :
    (registration = .alreadyPresent ∧ registry' = registry ∧ HoldsSchema registry definition) ∨
      (registration = .registered ∧ registry.get definition.key = none ∧
        ∃ validate, validatorFor definition.definition = .ok validate ∧
          registry' = ⟨registry.definitions ++ [definition],
            registry.validators ++ [(definition.key, validate)]⟩) := by
  unfold SchemaRegistry.register at h
  cases hget : registry.get definition.key with
  | some existing =>
      by_cases hsame : existing.same definition = true
      · simp only [hget, hsame, if_true, Except.ok.injEq, Prod.mk.injEq] at h
        exact Or.inl ⟨h.2.symm, h.1.symm, existing, hget, hsame⟩
      · simp [hget, hsame] at h
  | none =>
      cases hcompiled : validatorFor definition.definition with
      | error reason => simp [hget, hcompiled] at h
      | ok validate =>
          simp only [hget, hcompiled, Except.ok.injEq, Prod.mk.injEq] at h
          exact Or.inr ⟨h.2.symm, rfl, validate, rfl, h.1.symm⟩

theorem register_extends (h : registry.register validatorFor definition =
    .ok (registry', registration)) : ExtendsRegistry registry registry' := by
  rcases register_cases h with ⟨-, rfl, -⟩ | ⟨-, hfree, validate, -, rfl⟩
  · exact .refl registry'
  · intro key stored hget
    rw [get_snoc, hget]
    rfl

theorem register_holds (h : registry.register validatorFor definition =
    .ok (registry', registration)) : HoldsSchema registry' definition := by
  rcases register_cases h with ⟨-, rfl, hholds⟩ | ⟨-, hfree, validate, -, rfl⟩
  · exact hholds
  · refine ⟨definition, ?_, SchemaDefinition.same_refl definition⟩
    rw [get_snoc, hfree, if_pos rfl]
    rfl

theorem register_of_holds (h : HoldsSchema registry definition) :
    registry.register validatorFor definition = .ok (registry, .alreadyPresent) := by
  obtain ⟨stored, hget, hsame⟩ := h
  simp [SchemaRegistry.register, hget, hsame]

/-- Another definition under a stored key is refused. -/
theorem register_of_differs (validatorFor : SchemaCompiler) {stored : SchemaDefinition}
    (hget : registry.get definition.key = some stored)
    (hdiffers : stored.same definition = false) :
    registry.register validatorFor definition = .error (.schemaConflict definition.key
      stored.owner.asStr definition.owner.asStr) := by
  simp [SchemaRegistry.register, hget, hdiffers]

end Register

/-! ## Rows that mirror a registry -/

section MirrorsSchemas

variable {Digest : Type} {deps : Dependencies Digest}

/-- The rows and the registry hold the same definitions, and every one compiles. -/
structure MirrorsSchemas (deps : Dependencies Digest) (rows : List SchemaRow)
    (registry : SchemaRegistry) : Prop where
  columns : (rows.map SchemaRow.schema).Nodup
  definition_row : ∀ key stored, registry.get key = some stored →
    stored.key = key ∧ ∃ row ∈ rows, decodeSchema deps row = .ok stored
  row_definition : ∀ row ∈ rows, ∃ stored validate, decodeSchema deps row = .ok stored ∧
    registry.get stored.key = some stored ∧ deps.validatorFor stored.definition = .ok validate

/-- Rows under different keys that decode to definitions which compile. -/
structure SoundSchemas (deps : Dependencies Digest) (rows : List SchemaRow) : Prop where
  columns : (rows.map SchemaRow.schema).Nodup
  decodes : ∀ row ∈ rows, ∃ stored validate, decodeSchema deps row = .ok stored ∧
    deps.validatorFor stored.definition = .ok validate

variable {rows : List SchemaRow}

theorem MirrorsSchemas.sound {registry : SchemaRegistry} (h : MirrorsSchemas deps rows registry) :
    SoundSchemas deps rows where
  columns := h.columns
  decodes row hrow := by
    obtain ⟨stored, validate, hdecode, -, hcompiled⟩ := h.row_definition row hrow
    exact ⟨stored, validate, hdecode, hcompiled⟩

theorem MirrorsSchemas.new : MirrorsSchemas deps [] .new where
  columns := List.nodup_nil
  definition_row := by simp [SchemaRegistry.get, SchemaRegistry.new, lookupRow]
  row_definition := by simp

/-- The definition of a row that mirrors a registry is found under its key. -/
theorem MirrorsSchemas.get_of_row {registry : SchemaRegistry}
    (h : MirrorsSchemas deps rows registry) {row : SchemaRow} (hrow : row ∈ rows) {key : SchemaKey}
    (hcolumns : row.schema = schemaColumns key) :
    ∃ stored, decodeSchema deps row = .ok stored ∧ registry.get key = some stored := by
  obtain ⟨stored, validate, hdecode, hget, -⟩ := h.row_definition row hrow
  have hkey : stored.key = key :=
    schemaColumns_injective ((decodeSchema_eq_ok hdecode).1.symm.trans hcolumns)
  exact ⟨stored, hdecode, hkey ▸ hget⟩

theorem MirrorsSchemas.get_eq_none_iff {registry : SchemaRegistry}
    (h : MirrorsSchemas deps rows registry) {key : SchemaKey} :
    registry.get key = none ↔ schemaColumns key ∉ rows.map SchemaRow.schema := by
  constructor
  · intro hfree hmem
    obtain ⟨row, hrow, hcolumns⟩ := List.mem_map.mp hmem
    obtain ⟨stored, -, hget⟩ := h.get_of_row hrow hcolumns
    cases hfree.symm.trans hget
  · intro hfree
    cases hget : registry.get key with
    | none => rfl
    | some stored =>
        obtain ⟨rfl, row, hrow, hdecode⟩ := h.definition_row key stored hget
        exact absurd (List.mem_map.mpr ⟨row, hrow, (decodeSchema_eq_ok hdecode).1⟩) hfree

/-- A row under a free key extends the registry by its definition. -/
theorem MirrorsSchemas.snoc {rows : List SchemaRow} {registry : SchemaRegistry}
    (h : MirrorsSchemas deps rows registry) {row : SchemaRow} {definition : SchemaDefinition}
    {validate : Validator} (hfree : row.schema ∉ rows.map SchemaRow.schema)
    (hdecode : decodeSchema deps row = .ok definition)
    (hcompiled : deps.validatorFor definition.definition = .ok validate)
    (validators : List (SchemaKey × Validator)) :
    MirrorsSchemas deps (rows ++ [row]) ⟨registry.definitions ++ [definition], validators⟩ where
  columns := nodup_map_snoc h.columns hfree
  definition_row := by
    intro key stored hget
    rw [get_snoc, Option.or_eq_some_iff] at hget
    rcases hget with hold | ⟨-, hnew⟩
    · obtain ⟨hkey, other, hother, hdecode⟩ := h.definition_row key stored hold
      exact ⟨hkey, other, List.mem_append_left _ hother, hdecode⟩
    · split at hnew
      · next hkey =>
          cases hnew
          exact ⟨hkey, row, by simp, hdecode⟩
      · cases hnew
  row_definition := by
    intro other hother
    rcases List.mem_append.mp hother with hold | hnew
    · obtain ⟨stored, validate, hdecode, hget, hcompiled⟩ := h.row_definition other hold
      refine ⟨stored, validate, hdecode, ?_, hcompiled⟩
      rw [get_snoc, hget]
      rfl
    · cases List.mem_singleton.mp hnew
      refine ⟨definition, validate, hdecode, ?_, hcompiled⟩
      have hnone : registry.get definition.key = none := by
        rw [h.get_eq_none_iff, ← (decodeSchema_eq_ok hdecode).1]
        exact hfree
      rw [get_snoc, hnone, if_pos rfl]
      rfl

/-- Sound rows are all registered, whatever rows were registered before them. -/
theorem registerRows_of_sound : ∀ {rows before : List SchemaRow} {registry : SchemaRegistry},
    MirrorsSchemas deps before registry → SoundSchemas deps (before ++ rows) →
    ∃ registry', registerRows deps registry rows = .ok registry' ∧
      MirrorsSchemas deps (before ++ rows) registry'
  | [], before, registry, hmirrors, _ => ⟨registry, rfl, by simpa using hmirrors⟩
  | row :: rows, before, registry, hmirrors, hsound => by
      obtain ⟨definition, validate, hdecode, hcompiled⟩ := hsound.decodes row (by simp)
      have hfree : row.schema ∉ before.map SchemaRow.schema := by
        have hcolumns := hsound.columns
        rw [List.map_append, List.map_cons] at hcolumns
        exact fun hmem => List.disjoint_of_nodup_append hcolumns hmem (by simp)
      have hnone : registry.get definition.key = none := by
        rw [hmirrors.get_eq_none_iff, ← (decodeSchema_eq_ok hdecode).1]
        exact hfree
      have hnext := hmirrors.snoc hfree hdecode hcompiled
        (registry.validators ++ [(definition.key, validate)])
      obtain ⟨registry', hrest, hfinal⟩ := registerRows_of_sound hnext (by simpa using hsound)
      refine ⟨registry', ?_, by simpa using hfinal⟩
      simp only [registerRows, hdecode, SchemaRegistry.register, hnone, hcompiled, liftWorld,
        bind, Except.bind]
      exact hrest

/-- Rows mirror a registry as a set. -/
theorem MirrorsSchemas.perm {rows' : List SchemaRow} {registry : SchemaRegistry}
    (h : MirrorsSchemas deps rows registry) (hperm : rows.Perm rows') :
    MirrorsSchemas deps rows' registry where
  columns := (hperm.map SchemaRow.schema).nodup_iff.mp h.columns
  definition_row key stored hget := by
    obtain ⟨hkey, row, hrow, hdecode⟩ := h.definition_row key stored hget
    exact ⟨hkey, row, hperm.mem_iff.mp hrow, hdecode⟩
  row_definition row hrow := h.row_definition row (hperm.mem_iff.mpr hrow)

/-- Sound rows load, and they mirror the registry that they load as. -/
theorem SoundSchemas.load {rows : List SchemaRow} (h : SoundSchemas deps rows) :
    ∃ registry, loadSchemaRegistry deps rows = .ok registry ∧
      MirrorsSchemas deps rows registry := by
  have hperm := List.perm_insertionSort schemaRowLe rows
  have hsorted : SoundSchemas deps ([] ++ rows.insertionSort schemaRowLe) := {
    columns := (hperm.map SchemaRow.schema).nodup_iff.mpr h.columns
    decodes := fun row hrow => h.decodes row (hperm.mem_iff.mp hrow) }
  obtain ⟨registry, hload, hmirrors⟩ := registerRows_of_sound MirrorsSchemas.new hsorted
  exact ⟨registry, hload, hmirrors.perm hperm⟩

/-- Two registries that mirror the same rows hold the same definitions. -/
theorem MirrorsSchemas.get_eq {registry registry' : SchemaRegistry}
    (h : MirrorsSchemas deps rows registry) (h' : MirrorsSchemas deps rows registry')
    (key : SchemaKey) : registry.get key = registry'.get key := by
  cases hget : registry.get key with
  | none => exact (h'.get_eq_none_iff.mpr (h.get_eq_none_iff.mp hget)).symm
  | some stored =>
      obtain ⟨rfl, row, hrow, hdecode⟩ := h.definition_row key stored hget
      obtain ⟨other, hother, hget'⟩ := h'.get_of_row hrow (decodeSchema_eq_ok hdecode).1
      cases hdecode.symm.trans hother
      exact hget'.symm

end MirrorsSchemas

/-! ## Both registration paths act on the mirrored registry -/

section Paths

variable {Digest : Type} {deps : Dependencies Digest} {store store' : WorldStore Digest}
  {registry registry' : SchemaRegistry} {rows rows' : List SchemaRow}
  {definition : SchemaDefinition} {definitions : List SchemaDefinition}
  {registration : SchemaRegistration}

/-- A registration by itself decides as the mirrored registry does, since both hold the same
definition under the key. -/
theorem MirrorsSchemas.registerSchema_eq
    (h : MirrorsSchemas deps store.worldSchemas registry) (definition : SchemaDefinition) :
    registerSchema deps store.worldSchemas store definition = do
      let registered ← liftWorld (registry.register deps.validatorFor definition)
      let rows ← insertRegistered store.worldSchemas definition registered.2
      return ({ store with worldSchemas := rows }, registered.2) := by
  cases hget : registry.get definition.key with
  | some existing =>
      obtain ⟨hkey, row, hrow, hdecode⟩ := h.definition_row _ _ hget
      obtain ⟨other, validate, hother, -, hcompiled⟩ := h.row_definition row hrow
      cases hdecode.symm.trans hother
      have hcolumns : row.schema = schemaColumns definition.key := by
        rw [(decodeSchema_eq_ok hdecode).1, hkey]
      have hload : loadSchema deps store.worldSchemas definition.key = .ok (some existing) := by
        rw [loadSchema, (lookupRow_eq_some_iff h.columns).mpr ⟨hrow, hcolumns⟩]
        simp [hdecode, Except.map]
      have hfirst : SchemaRegistry.new.register deps.validatorFor existing =
          .ok (⟨[existing], [(existing.key, validate)]⟩, .registered) := by
        simp [SchemaRegistry.register, SchemaRegistry.new, SchemaRegistry.get, lookupRow,
          hcompiled]
      have hagain : SchemaRegistry.get ⟨[existing], [(existing.key, validate)]⟩ definition.key =
          some existing := by
        simp [SchemaRegistry.get, lookupRow, hkey]
      cases hsame : existing.same definition with
      | true =>
          have hsingle : SchemaRegistry.register deps.validatorFor
              ⟨[existing], [(existing.key, validate)]⟩ definition =
                .ok (⟨[existing], [(existing.key, validate)]⟩, .alreadyPresent) :=
            register_of_holds ⟨existing, hagain, hsame⟩
          have hstored : registry.register deps.validatorFor definition =
              .ok (registry, .alreadyPresent) :=
            register_of_holds ⟨existing, hget, hsame⟩
          simp [registerSchema, hload, hfirst, hsingle, hstored, liftWorld, insertRegistered,
            bind, Except.bind, pure, Except.pure]
      | false =>
          have hsingle := register_of_differs deps.validatorFor hagain hsame
          have hstored := register_of_differs deps.validatorFor hget hsame
          simp [registerSchema, hload, hfirst, hsingle, hstored, liftWorld, bind, Except.bind]
  | none =>
      have hload : loadSchema deps store.worldSchemas definition.key = .ok none := by
        have hfree := h.get_eq_none_iff.mp hget
        have hnone : lookupRow SchemaRow.schema store.worldSchemas
            (schemaColumns definition.key) = none :=
          lookupRow_eq_none_iff.mpr fun row hrow hcolumns =>
            hfree (List.mem_map.mpr ⟨row, hrow, hcolumns⟩)
        rw [loadSchema, hnone]
      have hempty : SchemaRegistry.new.get definition.key = none := rfl
      cases hcompiled : deps.validatorFor definition.definition <;>
        simp [registerSchema, hload, SchemaRegistry.register, hempty, hget, hcompiled, liftWorld,
          insertRegistered, bind, Except.bind, pure, Except.pure]

/-- The rows of a storable definition mirror the registry after it was registered. -/
theorem MirrorsSchemas.insertRegistered (h : MirrorsSchemas deps rows registry)
    (hstorable : Storable deps definition)
    (hregister : registry.register deps.validatorFor definition = .ok (registry', registration)) :
    ∃ rows', Storage.insertRegistered rows definition registration = .ok rows' ∧
      MirrorsSchemas deps rows' registry' := by
  rcases register_cases hregister with ⟨rfl, rfl, -⟩ | ⟨rfl, hnone, validate, hcompiled, rfl⟩
  · exact ⟨rows, rfl, h⟩
  · have hfree := h.get_eq_none_iff.mp hnone
    exact ⟨rows ++ [schemaRow definition], insertUnique_eq_ok_iff.mpr ⟨hfree, rfl⟩,
      h.snoc hfree (hstorable validate hcompiled).decodeSchema hcompiled _⟩

/-- A batch of storable definitions acts as the same registrations one by one. -/
theorem MirrorsSchemas.registerEach_eq : ∀ {definitions : List SchemaDefinition}
    {store : WorldStore Digest} {registry : SchemaRegistry},
    MirrorsSchemas deps store.worldSchemas registry →
    (∀ definition ∈ definitions, Storable deps definition) →
    registerEach deps store definitions =
      (registerDefinitions deps registry store.worldSchemas definitions).map fun result =>
        ({ store with worldSchemas := result.1 }, result.2)
  | [], store, registry, _, _ => rfl
  | definition :: definitions, store, registry, h, hstorable => by
      rw [registerEach, h.registerSchema_eq, registerDefinitions]
      cases hregister : registry.register deps.validatorFor definition with
      | error error => rfl
      | ok registered =>
          obtain ⟨rows, hrows, hnext⟩ :=
            h.insertRegistered (hstorable definition (by simp)) hregister
          have hrest : registerEach deps { store with worldSchemas := rows } definitions =
              (registerDefinitions deps registered.1 rows definitions).map fun result =>
                ({ store with worldSchemas := result.1 }, result.2) :=
            MirrorsSchemas.registerEach_eq hnext
              fun other hother => hstorable other (by simp [hother])
          simp only [liftWorld, hrows, hrest, bind, Except.bind, pure, Except.pure]
          cases registerDefinitions deps registered.1 rows definitions <;> rfl

/-- What an accepted batch does to a registry. -/
theorem registerDefinitions_spec : ∀ {definitions : List SchemaDefinition}
    {registry : SchemaRegistry} {rows rows' : List SchemaRow}
    {registrations : List SchemaRegistration},
    registerDefinitions deps registry rows definitions = .ok (rows', registrations) →
    ∃ registry', ExtendsRegistry registry registry' ∧
      (∀ definition ∈ definitions, HoldsSchema registry' definition) ∧
      (MirrorsSchemas deps rows registry →
        (∀ definition ∈ definitions, Storable deps definition) →
        MirrorsSchemas deps rows' registry')
  | [], registry, rows, rows', registrations, h => by
      cases h
      exact ⟨registry, .refl registry, by simp, fun hmirrors _ => hmirrors⟩
  | definition :: definitions, registry, rows, rows', registrations, h => by
      obtain ⟨⟨next, registration⟩, hregister, h⟩ := bind_eq_ok_iff.mp h
      obtain ⟨middle, hmiddle, h⟩ := bind_eq_ok_iff.mp h
      obtain ⟨⟨final, others⟩, hrest, h⟩ := bind_eq_ok_iff.mp h
      cases h
      have hregister := liftWorld_eq_ok_iff.mp hregister
      obtain ⟨registry', hextends, hholds, hmirrors⟩ := registerDefinitions_spec hrest
      refine ⟨registry', (register_extends hregister).trans hextends, ?_, ?_⟩
      · intro other hother
        rcases List.mem_cons.mp hother with rfl | hother
        · exact (register_holds hregister).extends hextends
        · exact hholds other hother
      · intro hbefore hstorable
        obtain ⟨inserted, hinserted, hafter⟩ :=
          hbefore.insertRegistered (hstorable definition (by simp)) hregister
        cases hmiddle.symm.trans hinserted
        exact hmirrors hafter fun other hother => hstorable other (by simp [hother])

/-- A batch of definitions that are all held changes nothing. -/
theorem registerDefinitions_of_holds : ∀ {definitions : List SchemaDefinition},
    (∀ definition ∈ definitions, HoldsSchema registry definition) →
    registerDefinitions deps registry rows definitions =
      .ok (rows, definitions.map fun _ => .alreadyPresent)
  | [], _ => rfl
  | definition :: definitions, hholds => by
      have hfirst : registry.register deps.validatorFor definition =
          .ok (registry, .alreadyPresent) :=
        register_of_holds (hholds definition (by simp))
      have hrest : registerDefinitions deps registry rows definitions =
          .ok (rows, definitions.map fun _ => .alreadyPresent) :=
        registerDefinitions_of_holds fun other hother => hholds other (by simp [hother])
      simp [registerDefinitions, hfirst, hrest, liftWorld, Storage.insertRegistered, bind,
        Except.bind, pure, Except.pure]

/-- What an accepted registration does, also when its lookup saw older rows. The row that it found
is one of the database, so the definition was compared with the stored one. -/
theorem MirrorsSchemas.registerSchema (h : MirrorsSchemas deps store.worldSchemas registry)
    (hstorable : Storable deps definition) {seen : List SchemaRow}
    (hregister : Storage.registerSchema deps seen store definition =
      .ok (store', registration)) :
    ∃ registry', MirrorsSchemas deps store'.worldSchemas registry' ∧
      ExtendsRegistry registry registry' ∧
      (seen <+: store.worldSchemas → HoldsSchema registry' definition) := by
  obtain ⟨existing, hexisting, hregister⟩ := bind_eq_ok_iff.mp hregister
  cases existing with
  | some found =>
      obtain ⟨⟨single, _⟩, hsingle, hregister⟩ := bind_eq_ok_iff.mp hregister
      obtain ⟨⟨_, _⟩, hagain, hregister⟩ := bind_eq_ok_iff.mp hregister
      cases hregister
      refine ⟨registry, h, .refl registry, fun hseen => ?_⟩
      obtain ⟨row, hrow, hcolumns, hdecode⟩ : ∃ row ∈ seen,
          row.schema = schemaColumns definition.key ∧ decodeSchema deps row = .ok found := by
        unfold loadSchema at hexisting
        cases hlookup : lookupRow SchemaRow.schema seen (schemaColumns definition.key) with
        | none => simp [hlookup] at hexisting
        | some row =>
            obtain ⟨hmem, hcolumns⟩ := mem_of_lookupRow hlookup
            simp only [hlookup] at hexisting
            obtain ⟨other, hdecode, hother⟩ := map_eq_ok_iff.mp hexisting
            cases hother
            exact ⟨row, hmem, hcolumns, hdecode⟩
      obtain ⟨stored, hstored, hget⟩ := h.get_of_row (hseen.subset hrow) hcolumns
      cases hdecode.symm.trans hstored
      have hkey : found.key = definition.key := (h.definition_row _ _ hget).1
      rcases register_cases (liftWorld_eq_ok_iff.mp hsingle) with
        ⟨-, rfl, _, hnew, -⟩ | ⟨-, -, validate, -, rfl⟩
      · cases hnew
      · have hfound : SchemaRegistry.get ⟨SchemaRegistry.new.definitions ++ [found],
            SchemaRegistry.new.validators ++ [(found.key, validate)]⟩ definition.key =
              some found := by
          rw [get_snoc, if_pos hkey]
          rfl
        rcases register_cases (liftWorld_eq_ok_iff.mp hagain) with
          ⟨-, -, other, hother, hsame⟩ | ⟨-, hnone, -⟩
        · cases hfound.symm.trans hother
          exact ⟨found, hget, hsame⟩
        · cases hfound.symm.trans hnone
  | none =>
      obtain ⟨⟨single, _⟩, hsingle, hregister⟩ := bind_eq_ok_iff.mp hregister
      obtain ⟨rows, hrows, hregister⟩ := bind_eq_ok_iff.mp hregister
      cases hregister
      obtain ⟨hfree, rfl⟩ := insertUnique_eq_ok_iff.mp hrows
      rcases register_cases (liftWorld_eq_ok_iff.mp hsingle) with
        ⟨-, -, _, hnew, -⟩ | ⟨-, -, validate, hcompiled, -⟩
      · cases hnew
      · have hnext := h.snoc hfree (hstorable validate hcompiled).decodeSchema hcompiled []
        have hnone := h.get_eq_none_iff.mpr hfree
        refine ⟨_, hnext, ?_, fun _ => ⟨definition, ?_, SchemaDefinition.same_refl definition⟩⟩
        · intro key stored hget
          rw [get_snoc, hget]
          rfl
        · rw [get_snoc, hnone, if_pos rfl]
          rfl

end Paths

/-! ## Runs that register only storable definitions -/

section Runs

variable {Digest : Type} [DecidableEq Digest] {deps : Dependencies Digest}
  {store store' : WorldStore Digest}

/-- A served request that registers only storable definitions keeps the rows sound. -/
theorem SoundSchemas.serves (h : SoundSchemas deps store.worldSchemas)
    {label : Request × Reply} (hstep : Serves deps store label store')
    (hstorable : ∀ definition ∈ label.1.definitions, Storable deps definition) :
    SoundSchemas deps store'.worldSchemas := by
  obtain ⟨registry, -, hmirrors⟩ := h.load
  cases hstep with
  | rejected => exact h
  | unavailable => exact h
  | @done _ request reply hperform =>
      cases request with
      | registerSchema seen definition =>
          obtain ⟨⟨next, registration⟩, hregister, hresult⟩ := map_eq_ok_iff.mp hperform
          cases hresult
          obtain ⟨registry', hnext, -⟩ := hmirrors.registerSchema
            (hstorable definition (by simp [Request.definitions])) hregister
          exact hnext.sound
      | registerSchemas definitions =>
          obtain ⟨⟨next, registrations⟩, hregister, hresult⟩ := map_eq_ok_iff.mp hperform
          cases hresult
          unfold registerSchemas at hregister
          split at hregister
          · cases hregister
            exact h
          · obtain ⟨loaded, hloaded, hregister⟩ := bind_eq_ok_iff.mp hregister
            obtain ⟨⟨rows, others⟩, hrows, hregister⟩ := bind_eq_ok_iff.mp hregister
            cases hregister
            obtain ⟨before, hbefore, hsame⟩ := h.load
            cases hloaded.symm.trans hbefore
            obtain ⟨registry', -, -, hnext⟩ := registerDefinitions_spec hrows
            exact (hnext hsame hstorable).sound
      | commit command transaction evaluatedPosition clock =>
          obtain ⟨⟨next, receipt⟩, hcommit, hresult⟩ := map_eq_ok_iff.mp hperform
          cases hresult
          rcases commit_eq_ok hcommit with ⟨rfl, -⟩ | hnew
          · exact h
          · exact hnew.worldSchemas ▸ h
      | claimNextEffect now leaseExpiresAt =>
          obtain ⟨⟨next, claim⟩, hclaim, hresult⟩ := map_eq_ok_iff.mp hperform
          cases hresult
          rcases claimNext_eq_ok hclaim with ⟨rfl, rfl⟩ | ⟨_, _, _, _, _, _, hupdate, _, _⟩
          · exact h
          · exact hupdate.result ▸ h
      | completeEffect jobId attempt =>
          obtain ⟨next, hcomplete, hresult⟩ := map_eq_ok_iff.mp hperform
          cases hresult
          exact (transitionClaim_eq_ok hcomplete).result ▸ h
      | retryEffect jobId attempt availableAt diagnostic =>
          obtain ⟨next, hretry, hresult⟩ := map_eq_ok_iff.mp hperform
          cases hresult
          obtain ⟨⟨⟩, _, hretry⟩ := bind_eq_ok_iff.mp hretry
          exact (transitionClaim_eq_ok hretry).result ▸ h
      | cancelClaimedEffect jobId attempt diagnostic =>
          obtain ⟨next, hcancel, hresult⟩ := map_eq_ok_iff.mp hperform
          cases hresult
          obtain ⟨⟨⟩, _, hcancel⟩ := bind_eq_ok_iff.mp hcancel
          exact (transitionClaim_eq_ok hcancel).result ▸ h
      | cancelEffect jobId =>
          obtain ⟨⟨next, changed⟩, hcancel, hresult⟩ := map_eq_ok_iff.mp hperform
          cases hresult
          rcases cancel_eq_ok hcancel with ⟨rfl, rfl⟩ | ⟨-, hupdate⟩
          · exact h
          · exact hupdate.result ▸ h

/-- Every definition that a request asks to register is storable. -/
def RegistersStorable (deps : Dependencies Digest) (label : Request × Reply) : Prop :=
  ∀ definition ∈ label.1.definitions, Storable deps definition

theorem soundSchemas_of_run {start : WorldStore Digest} (hstart : start.worldSchemas = [])
    {history : List (Request × Reply)}
    (hrun : (storageSystem deps).RunWith (fun _ _ label _ => RegistersStorable deps label)
      start history store) : SoundSchemas deps store.worldSchemas := by
  induction hrun with
  | refl => exact hstart ▸ MirrorsSchemas.new.sound
  | snoc _ hstep hstorable ih => exact ih.serves hstep hstorable

end Runs

/-! ## The round trip -/

section RoundTrip

variable {Digest : Type} [DecidableEq Digest] {deps : Dependencies Digest}
  {store : WorldStore Digest}

/-- Both databases load, and the second one holds the definitions of the first one
unchanged, and definitions equal to the given ones. -/
def SchemasKept (deps : Dependencies Digest) (store : WorldStore Digest)
    (definitions : List SchemaDefinition) (store' : WorldStore Digest) : Prop :=
  ∃ registry registry', loadSchemaRegistry deps store.worldSchemas = .ok registry ∧
    loadSchemaRegistry deps store'.worldSchemas = .ok registry' ∧
    ExtendsRegistry registry registry' ∧
    ∀ definition ∈ definitions, HoldsSchema registry' definition

/-- A database holds a definition equal to the given one. -/
def StoresSchema (deps : Dependencies Digest) (store : WorldStore Digest)
    (definition : SchemaDefinition) : Prop :=
  ∃ registry, loadSchemaRegistry deps store.worldSchemas = .ok registry ∧
    HoldsSchema registry definition

/-- What the registration of schemas promises in one state of a database. A single
registration may have looked its key up in older rows. -/
structure RegistrationRoundTrip (deps : Dependencies Digest) (store : WorldStore Digest) :
    Prop where
  single : ∀ seen definition store' registration, Storable deps definition →
    seen <+: store.worldSchemas →
    registerSchema deps seen store definition = .ok (store', registration) →
    SchemasKept deps store [definition] store'
  batch : ∀ definitions store' registrations,
    (∀ definition ∈ definitions, Storable deps definition) →
    registerSchemas deps store definitions = .ok (store', registrations) →
    SchemasKept deps store definitions store'
  again : ∀ definition, StoresSchema deps store definition →
    registerSchema deps store.worldSchemas store definition = .ok (store, .alreadyPresent)
  againBatch : ∀ definitions, (∀ definition ∈ definitions, StoresSchema deps store definition) →
    registerSchemas deps store definitions =
      .ok (store, definitions.map fun _ => .alreadyPresent)
  conflict : ∀ registry stored definition,
    loadSchemaRegistry deps store.worldSchemas = .ok registry →
    registry.get definition.key = some stored → stored.same definition = false →
    registerSchema deps store.worldSchemas store definition =
        .error (.world (.schemaConflict definition.key stored.owner.asStr
          definition.owner.asStr)) ∧
      ∀ definitions result, definition ∈ definitions →
        registerSchemas deps store definitions ≠ .ok result
  each : ∀ definitions, (∀ definition ∈ definitions, Storable deps definition) →
    registerSchemas deps store definitions = registerEach deps store definitions
  refused : ∀ definitions error store',
    Serves deps store (.registerSchemas definitions, .failed error) store' → store' = store

omit [DecidableEq Digest] in
/-- Rows that mirror extended registries keep their schemas. -/
theorem MirrorsSchemas.kept {store' : WorldStore Digest} {registry registry' : SchemaRegistry}
    {definitions : List SchemaDefinition} (h : MirrorsSchemas deps store.worldSchemas registry)
    (h' : MirrorsSchemas deps store'.worldSchemas registry')
    (hextends : ExtendsRegistry registry registry')
    (hholds : ∀ definition ∈ definitions, HoldsSchema registry' definition) :
    SchemasKept deps store definitions store' := by
  obtain ⟨before, hbefore, hmirrors⟩ := h.sound.load
  obtain ⟨after, hafter, hmirrors'⟩ := h'.sound.load
  refine ⟨before, after, hbefore, hafter, ?_, ?_⟩
  · intro key stored hget
    rw [hmirrors.get_eq h] at hget
    rw [hmirrors'.get_eq h']
    exact hextends key stored hget
  · intro definition hdefinition
    obtain ⟨stored, hget, hsame⟩ := hholds definition hdefinition
    exact ⟨stored, (hmirrors'.get_eq h' _).trans hget, hsame⟩

omit [DecidableEq Digest] in
/-- A batch that is accepted, from a database that loads as some registry. -/
theorem registerSchemas_spec {registry : SchemaRegistry}
    (hload : loadSchemaRegistry deps store.worldSchemas = .ok registry)
    (definitions : List SchemaDefinition) :
    registerSchemas deps store definitions =
      (registerDefinitions deps registry store.worldSchemas definitions).map fun result =>
        ({ store with worldSchemas := result.1 }, result.2) := by
  cases definitions with
  | nil => rfl
  | cons definition definitions =>
      simp only [registerSchemas, List.isEmpty_cons, hload, bind, Except.bind, pure, Except.pure]
      cases registerDefinitions deps registry store.worldSchemas (definition :: definitions) <;>
        rfl

/-- Accepted definitions make the round trip. A stored definition under the same key would be the
accepted one. -/
theorem SoundSchemas.roundTrip (h : SoundSchemas deps store.worldSchemas) :
    RegistrationRoundTrip deps store := by
  obtain ⟨registry, hload, hmirrors⟩ := h.load
  have hstores : ∀ {definition}, StoresSchema deps store definition →
      HoldsSchema registry definition := by
    rintro definition ⟨other, hother, hholds⟩
    cases hload.symm.trans hother
    exact hholds
  refine ⟨?_, ?_, ?_, ?_, ?_, ?_, ?_⟩
  · intro seen definition store' registration hstorable hseen hregister
    obtain ⟨registry', hnext, hextends, hholds⟩ := hmirrors.registerSchema hstorable hregister
    exact hmirrors.kept hnext hextends (by simpa using hholds hseen)
  · intro definitions store' registrations hstorable hregister
    rw [registerSchemas_spec hload] at hregister
    obtain ⟨⟨rows, others⟩, hrows, hresult⟩ := map_eq_ok_iff.mp hregister
    cases hresult
    obtain ⟨registry', hextends, hholds, hnext⟩ := registerDefinitions_spec hrows
    exact hmirrors.kept (hnext hmirrors hstorable) hextends hholds
  · intro definition hstored
    have hregister : registry.register deps.validatorFor definition =
        .ok (registry, .alreadyPresent) := register_of_holds (hstores hstored)
    rw [hmirrors.registerSchema_eq, hregister]
    rfl
  · intro definitions hstored
    rw [registerSchemas_spec hload,
      registerDefinitions_of_holds fun definition hmem => hstores (hstored definition hmem)]
    rfl
  · intro other stored definition hother hget hdiffers
    cases hload.symm.trans hother
    refine ⟨?_, fun definitions result hmem hregister => ?_⟩
    · rw [hmirrors.registerSchema_eq, register_of_differs deps.validatorFor hget hdiffers]
      rfl
    · rw [registerSchemas_spec hload] at hregister
      obtain ⟨⟨rows, others⟩, hrows, -⟩ := map_eq_ok_iff.mp hregister
      obtain ⟨registry', hextends, hholds, -⟩ := registerDefinitions_spec hrows
      obtain ⟨found, hfound, hsame⟩ := hholds definition hmem
      cases (hextends _ _ hget).symm.trans hfound
      cases hdiffers.symm.trans hsame
  · intro definitions hstorable
    rw [registerSchemas_spec hload, hmirrors.registerEach_eq hstorable]
  · intro definitions error store' hserves
    cases hserves with
    | rejected => rfl
    | unavailable => rfl
    | done hperform =>
        obtain ⟨_, _, hreply⟩ := map_eq_ok_iff.mp hperform
        cases hreply

/-- Registered schemas round trip in every run that registers only definitions whose
identifiers are canonical and whose documents can be read back. -/
theorem schema_registration_round_trips {start : WorldStore Digest}
    (hstart : (storageSystem deps).init start) {history : List (Request × Reply)}
    (hrun : (storageSystem deps).RunWith (fun _ _ label _ => RegistersStorable deps label)
      start history store) : RegistrationRoundTrip deps store := by
  obtain ⟨worldId, rfl⟩ := hstart
  exact (soundSchemas_of_run rfl hrun).roundTrip

end RoundTrip

/-- The definitions of the demo schemas can be stored. -/
theorem storable_demoSchemas (mutations : List WorldMutation) :
    ∀ definition ∈ demoSchemas, Storable (tableDependencies [acceptAll] mutations) definition := by
  have hdocument : (tableDependencies [acceptAll] mutations).fromStr acceptAll.json.toText =
      .ok acceptAll := rfl
  intro definition hdefinition validate _
  simp only [demoSchemas, List.mem_cons, List.not_mem_nil, or_false] at hdefinition
  rcases hdefinition with rfl | rfl | rfl | rfl | rfl | rfl <;>
    exact ⟨by decide +kernel, hdocument⟩

theorem schema_registration_round_trips_demo :
    RegistrationRoundTrip (tableDependencies [acceptAll] [])
      (demoRun (tableDependencies [acceptAll] []) []).2 :=
  schema_registration_round_trips ⟨⟨0⟩, rfl⟩
    (.snoc .refl (serves_serve _ _ (.registerSchemas demoSchemas)) (storable_demoSchemas []))

/-- A definition whose identifier is not canonical is registered, and then the schemas can
no longer be loaded. -/
theorem registration_locks_database :
    let deps := tableDependencies [acceptAll] []
    let store := WorldStore.create String ⟨0⟩
    let definition : SchemaDefinition := ⟨demoKey "Demo.Body", .entity, ⟨"demo"⟩, acceptAll⟩
    (storageSystem deps).Reachable store ∧
      deps.fromStr definition.definition.json.toText = .ok definition.definition ∧
      ∃ store', registerSchema deps store.worldSchemas store definition =
          .ok (store', .registered) ∧
        registerSchemas deps store [definition] = .ok (store', [.registered]) ∧
        ∀ registry, loadSchemaRegistry deps store'.worldSchemas ≠ .ok registry := by
  refine ⟨.of_init ⟨⟨0⟩, rfl⟩, rfl, _, rfl, rfl, fun registry hload => ?_⟩
  cases hload

end Rintawa.Storage
