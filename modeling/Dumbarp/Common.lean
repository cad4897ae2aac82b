/-
What the programs share (`dumbarp-common/src/lib.rs`): constants, the keys of the kernel maps,
and the two functions that rewrite the TOS byte of an IPv4 header.
-/
import Mathlib.Data.Nat.Bits
import Mathlib.Data.UInt
import Mathlib.Tactic.Lemma

namespace Dumbarp

/-- `DSCP_ID_MAX`: the DSCP field has six bits. -/
def dscpIdMax : UInt8 := 63

/-- `IPV4_TOS_OFFSET`. -/
def ipv4TosOffset : ℕ := 1

/-- `IPV4_CHECK_OFFSET`. -/
def ipv4CheckOffset : ℕ := 10

/-- `IPPROTO_TCP`. -/
def ipprotoTcp : UInt8 := 6

/-- `IPPROTO_UDP`. -/
def ipprotoUdp : UInt8 := 17

/-- `EtherType::Ipv4` in network byte order, as a little-endian machine reads it. -/
def etherTypeIpv4 : UInt32 := 0x0008

/-- `CTR_TAGGED`, `CTR_UNTAGGED` and `CTR_SKIPPED`: the slots of the counters of a router. -/
inductive CounterSlot where
  | tagged
  | untagged
  | skipped
deriving DecidableEq, Repr

/-- `csum_replace2`: the checksum after one of the words it covers is replaced. -/
def csumReplace2 (check old new : UInt16) : UInt16 :=
  let sum := (~~~check).toUInt32 + (~~~old).toUInt32 + new.toUInt32
  let sum := (sum &&& (0xffff : UInt32)) + (sum >>> 16)
  let sum := (sum &&& (0xffff : UInt32)) + (sum >>> 16)
  ~~~sum.toUInt16

/-- `tos_with_dscp`. -/
def tosWithDscp (tos dscp : UInt8) : UInt8 := (dscp <<< 2) ||| (tos &&& 0x03)

/-- A MAC address, `[u8; 6]`. -/
structure Mac where
  a : UInt8
  b : UInt8
  c : UInt8
  d : UInt8
  e : UInt8
  f : UInt8
deriving DecidableEq, Repr

/-- The octets of a MAC address. -/
def Mac.bytes (mac : Mac) : List UInt8 := [mac.a, mac.b, mac.c, mac.d, mac.e, mac.f]

/-- `ArpKey`. -/
structure ArpKey where
  ifindex : UInt32
  ip : UInt32
deriving DecidableEq, Repr

/-- `FlowKey`.  The padding is left out: it is always zero. -/
structure FlowKey where
  src : UInt32
  dst : UInt32
  sport : UInt16
  dport : UInt16
  proto : UInt8
deriving DecidableEq, Repr

/-- `FlowKey::reversed`. -/
def FlowKey.reversed (k : FlowKey) : FlowKey := ⟨k.dst, k.src, k.dport, k.sport, k.proto⟩

@[simp] lemma FlowKey.reversed_reversed (k : FlowKey) : k.reversed.reversed = k := rfl

lemma FlowKey.reversed_inj {k k' : FlowKey} : k.reversed = k'.reversed ↔ k = k' :=
  (Function.Involutive.injective FlowKey.reversed_reversed).eq_iff

/-! ## The TOS byte -/

lemma toNat_shiftRight_two (tos : UInt8) : (tos >>> 2).toNat = tos.toNat / 4 := by
  rw [UInt8.toNat_shiftRight]
  exact Nat.shiftRight_eq_div_pow _ 2

lemma toNat_and_three (tos : UInt8) : (tos &&& 0x03).toNat = tos.toNat % 4 := by
  rw [UInt8.toNat_and]
  exact Nat.and_two_pow_sub_one_eq_mod _ 2

/-- The new byte as a number: the six bits of the DSCP above the two of the old byte. -/
lemma toNat_tosWithDscp (tos dscp : UInt8) :
    (tosWithDscp tos dscp).toNat = 4 * (dscp.toNat % 64) + tos.toNat % 4 := by
  have hshift : (dscp <<< 2).toNat = 2 ^ 2 * (dscp.toNat % 64) := by
    rw [UInt8.toNat_shiftLeft]
    have : dscp.toNat <<< ((2 : UInt8).toNat % 8) = dscp.toNat * 4 := Nat.shiftLeft_eq _ _
    rw [this]
    omega
  have hlow : tos.toNat % 4 < 2 ^ 2 := Nat.mod_lt _ (by decide)
  rw [tosWithDscp, UInt8.toNat_or, hshift, toNat_and_three, ← Nat.two_pow_add_eq_or_of_lt hlow]

/-- The ECN bits stay. -/
lemma tosWithDscp_ecn (tos dscp : UInt8) : tosWithDscp tos dscp &&& 0x03 = tos &&& 0x03 := by
  rw [← UInt8.toNat_inj, toNat_and_three, toNat_and_three, toNat_tosWithDscp]
  omega

/-- The DSCP is the new one. -/
lemma tosWithDscp_dscp (tos : UInt8) {dscp : UInt8} (h : dscp ≤ dscpIdMax) :
    tosWithDscp tos dscp >>> 2 = dscp := by
  have hle : dscp.toNat ≤ 63 := UInt8.le_iff_toNat_le.mp h
  rw [← UInt8.toNat_inj, toNat_shiftRight_two, toNat_tosWithDscp]
  omega

/-- The byte changes unless it carries the DSCP already. -/
lemma tosWithDscp_eq_self_iff {tos dscp : UInt8} (h : dscp ≤ dscpIdMax) :
    tosWithDscp tos dscp = tos ↔ tos >>> 2 = dscp := by
  have hle : dscp.toNat ≤ 63 := UInt8.le_iff_toNat_le.mp h
  rw [← UInt8.toNat_inj, ← UInt8.toNat_inj, toNat_shiftRight_two, toNat_tosWithDscp]
  omega

lemma shiftRight_two_le (tos : UInt8) : tos >>> 2 ≤ dscpIdMax := by
  rw [UInt8.le_iff_toNat_le, toNat_shiftRight_two]
  have := tos.toNat_lt
  have : dscpIdMax.toNat = 63 := rfl
  omega

end Dumbarp
