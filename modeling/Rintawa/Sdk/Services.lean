/-
# Calls of services

Components call services through contracts. A call either yields the bytes of a
response or fails in the transport.
-/

import Mathlib.Algebra.Group.Nat.Defs
import Mathlib.Data.List.Basic

namespace Rintawa.Sdk

/-- The number of values of a 64-bit counter. -/
def counterLimit : Nat := 2 ^ 64

/-- An opaque choice of one provider of a contract. The number grants nothing. -/
structure ServiceProviderHandle where
  /-- The handle from its number in a transport. -/
  fromRaw ::
  raw : Nat
  deriving DecidableEq, Repr

/-- Transport-level failure while routing a service request. -/
inductive ServiceCallError
  | unavailable
  | notConsumer
  | notServiceContract
  | unsupportedResolution
  | cyclicCall
  | providerBusy
  | providerFailed
  | requestTooLarge
  | responseTooLarge
  deriving DecidableEq, Repr

/-- The displayed transport error. -/
def ServiceCallError.display : ServiceCallError → String
  | .unavailable => "service unavailable"
  | .notConsumer => "component is not a consumer of this service contract"
  | .notServiceContract => "contract is not a service contract"
  | .unsupportedResolution => "service contract does not resolve to exactly one provider"
  | .cyclicCall => "cyclic service call detected"
  | .providerBusy => "service provider is busy"
  | .providerFailed => "service provider failed"
  | .requestTooLarge => "service request is too large"
  | .responseTooLarge => "service response is too large"

/-- What the service transport returns. -/
abbrev ServiceCallResult (α : Type) : Type :=
  Except ServiceCallError α

/-- What a call yields once its bytes are decoded as a protocol response. -/
inductive ServiceAnswer (Response : Type)
  | failed (error : ServiceCallError)
  | undecodable
  | response (response : Response)

end Rintawa.Sdk
