/-
# Destinations of bounded fetches

The filter of the fetch lets through addresses of version 4 exactly when they are publicly
routable. Of version 6 it knows the special blocks of most kinds, and of the addresses that
embed one of version 4 it looks into the mapped ones. The other forms of embedding, and the
blocks that it does not know, pass.
-/

import Mathlib.Algebra.Group.Nat.Defs
import Rintawa.WasmRuntime.HttpFetch

namespace Rintawa.WasmRuntime

open Rintawa.Lib Rintawa.Sdk

/-! ## Version 4 -/

/-- The special blocks by their octets, one block after the other; each is a division by a
constant. -/
theorem ipv4_isSpecial_iff (address : Ipv4Addr) :
    address.IsSpecial ↔ address.a.toNat = 0 ∨ address.a.toNat = 10 ∨ address.a.toNat = 127 ∨
      (address.a.toNat = 100 ∧ 64 ≤ address.b.toNat ∧ address.b.toNat ≤ 127) ∨
      (address.a.toNat = 169 ∧ address.b.toNat = 254) ∨
      (address.a.toNat = 172 ∧ 16 ≤ address.b.toNat ∧ address.b.toNat ≤ 31) ∨
      (address.a.toNat = 192 ∧ address.b.toNat = 168) ∨
      (address.a.toNat = 192 ∧ address.b.toNat = 0 ∧ address.c.toNat = 0) ∨
      (address.a.toNat = 192 ∧ address.b.toNat = 0 ∧ address.c.toNat = 2) ∨
      (address.a.toNat = 198 ∧ (address.b.toNat = 18 ∨ address.b.toNat = 19)) ∨
      (address.a.toNat = 198 ∧ address.b.toNat = 51 ∧ address.c.toNat = 100) ∨
      (address.a.toNat = 203 ∧ address.b.toNat = 0 ∧ address.c.toNat = 113) ∨
      224 ≤ address.a.toNat := by
  obtain ⟨a, b, c, d⟩ := address
  have ha := a.toNat_lt
  have hb := b.toNat_lt
  have hc := c.toNat_lt
  have hd := d.toNat_lt
  simp only [Ipv4Addr.IsSpecial, Ipv4Addr.specialBlocks, List.exists_mem_cons_iff,
    List.not_mem_nil, false_and, exists_false, or_false, Ipv4Addr.InBlock, Ipv4Addr.toNat,
    Nat.shiftRight_eq_div_pow]
  refine or_congr ?_ (or_congr ?_ (or_congr ?_ (or_congr ?_ (or_congr ?_ (or_congr ?_
    (or_congr ?_ (or_congr ?_ (or_congr ?_ (or_congr ?_ (or_congr ?_ (or_congr ?_ ?_)))))))))))
  all_goals
    simp
    omega

/-- The filter of version 4 lets through what is publicly routable. -/
theorem isAllowedPublicIpv4_iff (address : Ipv4Addr) :
    isAllowedPublicIpv4 address = true ↔ ¬ address.IsSpecial := by
  rw [ipv4_isSpecial_iff]
  simp only [isAllowedPublicIpv4, Bool.not_eq_true', ← Bool.not_eq_true, Bool.or_eq_true,
    Bool.and_eq_true, beq_iff_eq, decide_eq_true_eq, or_assoc, and_assoc]

/-! ## Version 6 -/

/-- Masking the leading bits of a number clears the others. -/
theorem land_leading {number width free : Nat} (hnumber : number < 2 ^ width)
    (hfree : free ≤ width) : number &&& (2 ^ width - 2 ^ free) = number / 2 ^ free * 2 ^ free := by
  have hmask : 2 ^ width - 2 ^ free = (2 ^ (width - free) - 1) <<< free := by
    rw [Nat.shiftLeft_eq, Nat.sub_mul, Nat.one_mul, ← Nat.pow_add, Nat.sub_add_cancel hfree]
  rw [hmask, ← Nat.shiftLeft_eq, ← Nat.shiftRight_eq_div_pow]
  apply Nat.eq_of_testBit_eq
  intro i
  simp only [Nat.testBit_and, Nat.testBit_shiftLeft, Nat.testBit_two_pow_sub_one,
    Nat.testBit_shiftRight]
  by_cases hi : free ≤ i
  · have hsame : free + (i - free) = i := by omega
    simp only [hi, decide_true, Bool.true_and, hsame]
    by_cases hwidth : i < width
    · have hinner : i - free < width - free := by omega
      simp [hinner]
    · have hbit : number.testBit i = false :=
        Nat.testBit_lt_two_pow (hnumber.trans_le (Nat.pow_le_pow_right (by decide) (by omega)))
      simp [hbit]
  · simp [hi]

/-- A masked segment has a value when its leading bits have it. -/
theorem mask_eq_iff {segment mask value : UInt16} {free leading : Nat} (hfree : free ≤ 16)
    (hmask : mask.toNat = 2 ^ 16 - 2 ^ free) (hvalue : value.toNat = leading * 2 ^ free) :
    (segment &&& mask == value) = true ↔ segment.toNat / 2 ^ free = leading := by
  rw [beq_iff_eq, ← UInt16.toNat_inj, UInt16.toNat_and, hmask, hvalue,
    land_leading segment.toNat_lt hfree]
  exact Nat.mul_left_inj (Nat.two_pow_pos free).ne'

/-- Multicast addresses are those whose first byte is 255. -/
theorem isMulticast_iff (address : Ipv6Addr) :
    isMulticast address = true ↔ address.s0.toNat / 256 = 255 :=
  @mask_eq_iff address.s0 0xff00 0xff00 8 255 (by decide) rfl rfl

/-- The special blocks of version 6 by their segments. -/
theorem ipv6_inSpecialBlock_iff (address : Ipv6Addr) :
    (∃ block ∈ Ipv6Addr.specialBlocks, address.InBlock block.1 block.2) ↔
      isUnspecified address = true ∨ isLoopback address = true ∨
      address.InBlock ⟨0x2001, 0x2, 0, 0, 0, 0, 0, 0⟩ 48 ∨
      (address.s0 = 0x2001 ∧ address.s1 = 0x0db8) ∨
      address.InBlock ⟨0x3fff, 0, 0, 0, 0, 0, 0, 0⟩ 20 ∨
      address.s0.toNat / 512 = 126 ∨ address.s0.toNat / 64 = 1018 ∨
      address.s0.toNat / 64 = 1019 ∨ address.s0.toNat / 256 = 255 := by
  obtain ⟨s0, s1, s2, s3, s4, s5, s6, s7⟩ := address
  have h0 := s0.toNat_lt
  have h1 := s1.toNat_lt
  have h2 := s2.toNat_lt
  have h3 := s3.toNat_lt
  have h4 := s4.toNat_lt
  have h5 := s5.toNat_lt
  have h6 := s6.toNat_lt
  have h7 := s7.toNat_lt
  simp only [Ipv6Addr.specialBlocks, List.exists_mem_cons_iff, List.not_mem_nil, false_and,
    exists_false, or_false]
  refine or_congr ?_ (or_congr ?_ (or_congr Iff.rfl (or_congr ?_ (or_congr Iff.rfl
    (or_congr ?_ (or_congr ?_ (or_congr ?_ ?_)))))))
  all_goals
    simp only [Ipv6Addr.InBlock, Ipv6Addr.toNat, Nat.shiftRight_eq_div_pow, isUnspecified,
      isLoopback, segments, beq_iff_eq, List.cons.injEq, ← UInt16.toNat_inj]
    simp
    omega

/-- The mapped addresses by their segments. -/
theorem embeds_mapped_iff (address : Ipv6Addr) :
    address.Embeds .mapped ↔
      ((segments address).take 5 == [0, 0, 0, 0, 0] && address.s5 == 0xffff) = true := by
  obtain ⟨s0, s1, s2, s3, s4, s5, s6, s7⟩ := address
  have h5 := s5.toNat_lt
  have h6 := s6.toNat_lt
  have h7 := s7.toNat_lt
  simp only [Ipv6Addr.Embeds, Ipv6Addr.Embedding.network, Ipv6Addr.InBlock, Ipv6Addr.toNat,
    Nat.shiftRight_eq_div_pow, segments, List.take_succ_cons, List.take_zero,
    Bool.and_eq_true, beq_iff_eq, List.cons.injEq, ← UInt16.toNat_inj]
  simp
  omega

/-- What the filter lets through though it is not publicly routable: the blocks for
benchmarks and the newer one for documentation, what is reserved, and the addresses that
embed one of version 4 in a form other than the mapped one. -/
def MissedByFilter : IpAddr → Prop
  | .v4 _ => False
  | .v6 address =>
      address.InBlock ⟨0x2001, 0x2, 0, 0, 0, 0, 0, 0⟩ 48 ∨
      address.InBlock ⟨0x3fff, 0, 0, 0, 0, 0, 0, 0⟩ 20 ∨ address.IsReserved ∨
      ∃ embedding, embedding ≠ .mapped ∧ address.Embeds embedding ∧
        (address.embedded embedding).IsSpecial

/-- What the filter of version 6 checks. -/
theorem isAllowedPublicIpv6_iff (address : Ipv6Addr) :
    isAllowedPublicIpv6 address = true ↔
      ¬ (isUnspecified address = true ∨ isLoopback address = true ∨
        (address.s0 = 0x2001 ∧ address.s1 = 0x0db8) ∨ address.s0.toNat / 512 = 126 ∨
        address.s0.toNat / 64 = 1018 ∨ address.s0.toNat / 64 = 1019 ∨
        address.s0.toNat / 256 = 255) ∧
      (address.Embeds .mapped → ¬ (address.embedded .mapped).IsSpecial) := by
  have hprivate := @mask_eq_iff address.s0 0xfe00 0xfc00 9 126 (by decide) rfl rfl
  have hlinkLocal := @mask_eq_iff address.s0 0xffc0 0xfe80 6 1018 (by decide) rfl rfl
  have hsiteLocal := @mask_eq_iff address.s0 0xffc0 0xfec0 6 1019 (by decide) rfl rfl
  have hdocumentation : (address.s0 == 0x2001 && address.s1 == 0x0db8) = true ↔
      address.s0 = 0x2001 ∧ address.s1 = 0x0db8 := by
    rw [Bool.and_eq_true, beq_iff_eq, beq_iff_eq]
  have checks : ∀ unspecified loopback multicast unique link site documentation mapped : Bool,
      ∀ embedded : Bool,
      (if unspecified || loopback || multicast then false
        else if unique || link || site || documentation then false
        else if mapped then embedded else true) = true ↔
      ¬ (unspecified = true ∨ loopback = true ∨ documentation = true ∨ unique = true ∨
        link = true ∨ site = true ∨ multicast = true) ∧ (mapped = true → embedded = true) := by
    grind
  rw [isAllowedPublicIpv6, checks, hprivate, hlinkLocal, hsiteLocal, hdocumentation,
    isMulticast_iff, isAllowedPublicIpv4_iff, embeds_mapped_iff]
  rfl

/-- What the filter lets through is publicly routable unless it is missed. -/
theorem publiclyRoutable_iff {destination : IpAddr}
    (hallowed : isAllowedPublicIp destination = true) :
    destination.PubliclyRoutable ↔ ¬ MissedByFilter destination := by
  cases destination with
  | v4 address => exact iff_of_true ((isAllowedPublicIpv4_iff address).mp hallowed) not_false
  | v6 address =>
      obtain ⟨hblocks, hmapped⟩ := (isAllowedPublicIpv6_iff address).mp hallowed
      have hspecial := ipv6_inSpecialBlock_iff address
      constructor
      · rintro ⟨hpublic, hembedded⟩ hmissed
        rcases hmissed with hbench | hdocumentation | hreserved | ⟨embedding, -, hembeds, hbad⟩
        · exact hpublic (.inl (hspecial.mpr (.inr (.inr (.inl hbench)))))
        · exact hpublic (.inl (hspecial.mpr (.inr (.inr (.inr (.inr (.inl hdocumentation)))))))
        · exact hpublic (.inr hreserved)
        · exact hembedded embedding hembeds hbad
      · intro hmissed
        obtain ⟨hbench, hrest⟩ := not_or.mp hmissed
        obtain ⟨hdocumentation, hrest⟩ := not_or.mp hrest
        obtain ⟨hreserved, hforms⟩ := not_or.mp hrest
        refine ⟨?_, fun embedding hembeds hbad => ?_⟩
        · rintro (hblock | hreserved')
          · rcases hspecial.mp hblock with h | h | h | h | h | h | h | h | h
            · exact hblocks (.inl h)
            · exact hblocks (.inr (.inl h))
            · exact hbench h
            · exact hblocks (.inr (.inr (.inl h)))
            · exact hdocumentation h
            · exact hblocks (.inr (.inr (.inr (.inl h))))
            · exact hblocks (.inr (.inr (.inr (.inr (.inl h)))))
            · exact hblocks (.inr (.inr (.inr (.inr (.inr (.inl h))))))
            · exact hblocks (.inr (.inr (.inr (.inr (.inr (.inr h))))))
          · exact hreserved hreserved'
        · by_cases hform : embedding = .mapped
          · subst hform
            exact hmapped hembeds hbad
          · exact hforms ⟨embedding, hform, hembeds, hbad⟩

end Rintawa.WasmRuntime
