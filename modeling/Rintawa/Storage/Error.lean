/-
# Errors of world storage
-/

import Rintawa.World.Error

namespace Rintawa.Storage

open Rintawa.Sdk Rintawa.World

/-- Why the database refused a statement. -/
inductive SqliteFailure
  | primaryKey
  | unique
  | foreignKey
  | check
  | unavailable
  deriving DecidableEq, Repr

/-- Why a text is not the serialized form of the expected value. -/
structure JsonError where
  message : String
  deriving DecidableEq, Repr

/-- Errors returned by persistent world storage operations. -/
inductive StorageError
  | sqlite (failure : SqliteFailure)
  | json (error : JsonError)
  | world (error : WorldError)
  | unsupportedMutationFormat (found supported : Nat)
  | corruptData (message : String)
  | indexOutOfRange (label : String)
  | effectJobNotFound (id : EffectJobId)
  | invalidEffectLease
  | effectJobClaimLost (id : EffectJobId)
  | effectAttemptOverflow (id : EffectJobId)
  | effectJobTerminal (id : EffectJobId)
  | effectErrorTooLarge (actualBytes maximumBytes : Nat)
  deriving DecidableEq, Repr

/-- A world-model error raised inside a storage operation. -/
def liftWorld {α : Type*} : Except WorldError α → Except StorageError α
  | .ok value => .ok value
  | .error error => .error (.world error)

@[simp]
theorem liftWorld_eq_ok_iff {α : Type*} {x : Except WorldError α} {value : α} :
    liftWorld x = .ok value ↔ x = .ok value := by
  cases x <;> simp [liftWorld]

/-- Succeed when a condition holds, and fail with the given error otherwise. -/
def ensure (condition : Bool) (error : StorageError) : Except StorageError Unit :=
  if condition then .ok () else .error error

@[simp]
theorem ensure_eq_ok_iff {condition : Bool} {error : StorageError} {result : Unit} :
    ensure condition error = .ok result ↔ condition = true := by
  cases condition <;> simp [ensure]

end Rintawa.Storage
