/-
# Contributions and runtime effects

Contributions are declared when a component is registered. Runtime effects are
installed by components that are running, and can be taken back.
-/

import Rintawa.Sdk.Contracts

namespace Rintawa.Sdk

/-- The role of a contribution. -/
structure ContributionKind where
  asStr : String
  deriving DecidableEq, Repr

/-- A contribution that an extension declares. -/
structure ContributionDescriptor where
  id : ContributionId
  kind : ContributionKind
  deriving DecidableEq, Repr

/-- The displayed schema key. -/
def SchemaKey.display (key : SchemaKey) : String :=
  key.id.asStr ++ "@" ++ toString key.version.get

/-- One world schema that an extension declares. -/
structure WorldSchemaContribution where
  key : SchemaKey
  kind : SchemaKind
  definitionJson : String
  deriving DecidableEq, Repr

/-- A reversible operation of a running component. -/
inductive RuntimeEffect
  | eventSubscription (topic : String)
  | signalSubscription (topic : String)
  deriving DecidableEq, Repr

/-- The topic that an effect subscribes to. -/
def RuntimeEffect.topic : RuntimeEffect → String
  | .eventSubscription topic => topic
  | .signalSubscription topic => topic

end Rintawa.Sdk
