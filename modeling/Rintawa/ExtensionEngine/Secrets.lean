/-
# Secret policy

Components read secrets only below patterns that the host granted to them. Every
change of the grants is counted by an atomic 64-bit counter, the policy revision,
that goes round when it overflows.
-/

import Rintawa.Lib.Dict
import Rintawa.Sdk.Contracts
import Rintawa.Sdk.Services

namespace Rintawa.ExtensionEngine

open Rintawa.Lib Rintawa.Sdk

/-- Why a secret is not read. -/
inductive SecretAccessError
  | invalidPath
  | accessDenied
  | notFound
  | unavailable
  deriving DecidableEq, Repr

/-- The grants of the components, and the number of times that they have changed. -/
structure SecretManager where
  readGrants : Dict ComponentRef (List SecretPathPattern)
  policyChanges : Nat

namespace SecretManager

def new : SecretManager :=
  ⟨∅, 0⟩

variable (secrets : SecretManager)

/-- The counter has 64 bits and goes round. -/
def policyRevision : Nat :=
  secrets.policyChanges % counterLimit

/-- Grant a component to read below a pattern. A grant that it has changes nothing. -/
def grantRead (owner : ComponentRef) (pattern : SecretPathPattern) : SecretManager :=
  let granted := (secrets.readGrants.lookup owner).getD []
  if pattern ∈ granted then secrets
  else ⟨secrets.readGrants.insert owner (granted ++ [pattern]), secrets.policyChanges + 1⟩

/-- Whether a component holds a grant that covers a pattern. -/
def hasReadGrant (owner : ComponentRef) (pattern : SecretPathPattern) : Bool :=
  (secrets.readGrants.lookup owner).any fun patterns =>
    patterns.any fun granted => granted.allowsPattern pattern

/-- Revoke every grant of a component. -/
def revokeComponent (owner : ComponentRef) : SecretManager :=
  if (secrets.readGrants.lookup owner).isSome then
    ⟨secrets.readGrants.erase owner, secrets.policyChanges + 1⟩
  else secrets

/-- Whether a component holds a grant for a path. -/
def isReadable (owner : ComponentRef) (path : SecretPath) : Bool :=
  (secrets.readGrants.lookup owner).any fun patterns =>
    patterns.any fun pattern => pattern.matches path

/-- Read a secret for a component, from a vault that may fail. -/
def readForComponent (vault : SecretPath → Except SecretAccessError (Option String))
    (owner : ComponentRef) (path : SecretPath) : Except SecretAccessError String :=
  if secrets.isReadable owner path then
    match vault path with
    | .ok (some value) => .ok value
    | .ok none => .error .notFound
    | .error error => .error error
  else .error .accessDenied

/-! ## Changes are counted -/

/-- A grant is counted unless it changes nothing. -/
theorem grantRead_changes (owner : ComponentRef) (pattern : SecretPathPattern) :
    secrets.grantRead owner pattern = secrets ∨
      (secrets.grantRead owner pattern).policyChanges = secrets.policyChanges + 1 := by
  simp only [grantRead]
  split
  · exact .inl rfl
  · exact .inr rfl

/-- A revocation is counted unless it changes nothing. -/
theorem revokeComponent_changes (owner : ComponentRef) :
    secrets.revokeComponent owner = secrets ∨
      (secrets.revokeComponent owner).policyChanges = secrets.policyChanges + 1 := by
  unfold revokeComponent
  split
  · exact .inr rfl
  · exact .inl rfl

/-- Granting to a component without grants and revoking again only costs two changes. -/
theorem revokeComponent_grantRead {owner : ComponentRef} (pattern : SecretPathPattern)
    (hnone : secrets.readGrants.lookup owner = none) :
    (secrets.grantRead owner pattern).revokeComponent owner =
      ⟨secrets.readGrants, secrets.policyChanges + 2⟩ := by
  simp [grantRead, revokeComponent, hnone, Dict.erase_insert hnone]

end SecretManager

end Rintawa.ExtensionEngine
