/-
# Internet addresses

Addresses of the two versions are numbers of 32 and of 128 bits. The registries set
blocks of addresses aside for special purposes, each given by the leading bits that its
addresses share. Some addresses of version 6 embed one of version 4, and reach what the
embedded address reaches.

An address is publicly routable when neither it nor the address that it embeds is in a
special block, and it is in a part of the space that has been given out.
-/

import Mathlib.Data.List.Basic

namespace Rintawa.Lib

/-- An address of version 4, by its octets. -/
structure Ipv4Addr where
  a : UInt8
  b : UInt8
  c : UInt8
  d : UInt8
  deriving DecidableEq, Repr

/-- An address of version 6, by its segments. -/
structure Ipv6Addr where
  s0 : UInt16
  s1 : UInt16
  s2 : UInt16
  s3 : UInt16
  s4 : UInt16
  s5 : UInt16
  s6 : UInt16
  s7 : UInt16
  deriving DecidableEq, Repr

/-- An address of either version. -/
inductive IpAddr
  | v4 (address : Ipv4Addr)
  | v6 (address : Ipv6Addr)
  deriving DecidableEq, Repr

namespace Ipv4Addr

variable (address : Ipv4Addr)

/-- The 32 bits of an address as a number. -/
def toNat : Nat :=
  ((address.a.toNat * 256 + address.b.toNat) * 256 + address.c.toNat) * 256 + address.d.toNat

/-- An address shares its leading bits with those of a network. -/
def InBlock (network : Ipv4Addr) (bits : Nat) : Prop :=
  address.toNat >>> (32 - bits) = network.toNat >>> (32 - bits)

instance (network : Ipv4Addr) (bits : Nat) : Decidable (address.InBlock network bits) :=
  inferInstanceAs (Decidable (_ = _))

/-- The blocks of addresses that are not publicly routable. -/
def specialBlocks : List (Ipv4Addr × Nat) :=
  [(⟨0, 0, 0, 0⟩, 8), -- unspecified
    (⟨10, 0, 0, 0⟩, 8), -- private
    (⟨127, 0, 0, 0⟩, 8), -- loopback
    (⟨100, 64, 0, 0⟩, 10), -- shared
    (⟨169, 254, 0, 0⟩, 16), -- link-local
    (⟨172, 16, 0, 0⟩, 12), -- private
    (⟨192, 168, 0, 0⟩, 16), -- private
    (⟨192, 0, 0, 0⟩, 24), -- reserved for protocol assignments
    (⟨192, 0, 2, 0⟩, 24), -- documentation
    (⟨198, 18, 0, 0⟩, 15), -- benchmarking
    (⟨198, 51, 100, 0⟩, 24), -- documentation
    (⟨203, 0, 113, 0⟩, 24), -- documentation
    (⟨224, 0, 0, 0⟩, 4), -- multicast
    (⟨240, 0, 0, 0⟩, 4)] -- reserved

def IsSpecial : Prop :=
  ∃ block ∈ specialBlocks, address.InBlock block.1 block.2

instance : Decidable address.IsSpecial :=
  inferInstanceAs (Decidable (∃ block ∈ specialBlocks, _))

end Ipv4Addr

namespace Ipv6Addr

variable (address : Ipv6Addr)

/-- The 128 bits of an address as a number. -/
def toNat : Nat :=
  ((((((address.s0.toNat * 65536 + address.s1.toNat) * 65536 + address.s2.toNat) * 65536 +
    address.s3.toNat) * 65536 + address.s4.toNat) * 65536 + address.s5.toNat) * 65536 +
    address.s6.toNat) * 65536 + address.s7.toNat

/-- An address shares its leading bits with those of a network. -/
def InBlock (network : Ipv6Addr) (bits : Nat) : Prop :=
  address.toNat >>> (128 - bits) = network.toNat >>> (128 - bits)

instance (network : Ipv6Addr) (bits : Nat) : Decidable (address.InBlock network bits) :=
  inferInstanceAs (Decidable (_ = _))

/-- The address of version 4 in two segments. -/
def octets (high low : UInt16) : Ipv4Addr :=
  ⟨(high >>> 8).toUInt8, high.toUInt8, (low >>> 8).toUInt8, low.toUInt8⟩

/-- The forms in which an address embeds one of version 4. -/
inductive Embedding
  | mapped
  | compatible
  | nat64
  | sixToFour
  deriving DecidableEq, Repr

/-- The network of the addresses of one form. -/
def Embedding.network : Embedding → Ipv6Addr × Nat
  | .mapped => (⟨0, 0, 0, 0, 0, 0xffff, 0, 0⟩, 96)
  | .compatible => (⟨0, 0, 0, 0, 0, 0, 0, 0⟩, 96)
  | .nat64 => (⟨0x64, 0xff9b, 0, 0, 0, 0, 0, 0⟩, 96)
  | .sixToFour => (⟨0x2002, 0, 0, 0, 0, 0, 0, 0⟩, 16)

/-- The address that one form embeds. -/
def embedded : Embedding → Ipv4Addr
  | .sixToFour => octets address.s1 address.s2
  | _ => octets address.s6 address.s7

/-- An address embeds another one in one of the forms. -/
def Embeds (embedding : Embedding) : Prop :=
  address.InBlock embedding.network.1 embedding.network.2

instance (embedding : Embedding) : Decidable (address.Embeds embedding) :=
  inferInstanceAs (Decidable (address.InBlock _ _))

/-- The blocks with a special purpose. -/
def specialBlocks : List (Ipv6Addr × Nat) :=
  [(⟨0, 0, 0, 0, 0, 0, 0, 0⟩, 128), -- unspecified
    (⟨0, 0, 0, 0, 0, 0, 0, 1⟩, 128), -- loopback
    (⟨0x2001, 0x2, 0, 0, 0, 0, 0, 0⟩, 48), -- benchmarking
    (⟨0x2001, 0xdb8, 0, 0, 0, 0, 0, 0⟩, 32), -- documentation
    (⟨0x3fff, 0, 0, 0, 0, 0, 0, 0⟩, 20), -- documentation
    (⟨0xfc00, 0, 0, 0, 0, 0, 0, 0⟩, 7), -- private
    (⟨0xfe80, 0, 0, 0, 0, 0, 0, 0⟩, 10), -- link-local
    (⟨0xfec0, 0, 0, 0, 0, 0, 0, 0⟩, 10), -- private, site-local
    (⟨0xff00, 0, 0, 0, 0, 0, 0, 0⟩, 8)] -- multicast

/-- Addresses outside the space of global unicast are reserved, unless they embed one of
version 4. -/
def IsReserved : Prop :=
  ¬ address.InBlock ⟨0x2000, 0, 0, 0, 0, 0, 0, 0⟩ 3 ∧ ∀ embedding, ¬ address.Embeds embedding

def IsSpecial : Prop :=
  (∃ block ∈ specialBlocks, address.InBlock block.1 block.2) ∨ address.IsReserved

end Ipv6Addr

/-- An address that is routed publicly. -/
def IpAddr.PubliclyRoutable : IpAddr → Prop
  | .v4 address => ¬ address.IsSpecial
  | .v6 address => ¬ address.IsSpecial ∧
      ∀ embedding, address.Embeds embedding → ¬ (address.embedded embedding).IsSpecial

end Rintawa.Lib
