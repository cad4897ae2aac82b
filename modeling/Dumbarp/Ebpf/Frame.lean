/-
IPv4 headers in the bytes of a frame, as the programs of `dumbarp-ebpf/src/main.rs` read and
rewrite them.

A frame is its list of bytes; a header starts at an offset, which is the length of the
link-layer header before it.  A read past the end fails, a write goes to bytes that were read.
-/
import Dumbarp.Common
import Dumbarp.Net.Ipv4
import Mathlib.Tactic.Common

namespace Dumbarp.Ebpf

/-! ## Reading -/

/-- The bytes of a packet. -/
abbrev Frame : Type := List UInt8

/-- The byte at an offset that is in range. -/
def byteAt (frame : Frame) (offset : ℕ) : UInt8 := frame.getD offset 0

/-- The four bytes at an offset that is in range. -/
def addrAt (frame : Frame) (offset : ℕ) : Ipv4Addr :=
  ⟨byteAt frame offset, byteAt frame (offset + 1), byteAt frame (offset + 2),
    byteAt frame (offset + 3)⟩

/-- `EthHdr::LEN`. -/
def ethHdrLen : ℕ := 14

/-- `Ipv4Hdr::LEN`. -/
def ipv4HdrLen : ℕ := 20

/-- `Ipv4Hdr`: the fields that the programs read. -/
structure Ipv4Hdr where
  vihl : UInt8
  tos : UInt8
  proto : UInt8
  check : UInt8 × UInt8
  srcAddr : Ipv4Addr
  dstAddr : Ipv4Addr
deriving DecidableEq, Repr

/-- `Ipv4Hdr::ihl`: the length of the header in bytes. -/
def Ipv4Hdr.ihl (ip : Ipv4Hdr) : UInt8 := (ip.vihl &&& 0x0f) <<< 2

/-- The header at an offset, without a check of the range. -/
def ipv4HdrAt (frame : Frame) (offset : ℕ) : Ipv4Hdr where
  vihl := byteAt frame offset
  tos := byteAt frame (offset + ipv4TosOffset)
  proto := byteAt frame (offset + 9)
  check := (byteAt frame (offset + ipv4CheckOffset), byteAt frame (offset + ipv4CheckOffset + 1))
  srcAddr := addrAt frame (offset + 12)
  dstAddr := addrAt frame (offset + 16)

/-- The header at an offset (`ptr_at` on ingress, `load` on egress): it must be in range. -/
def loadIpv4Hdr (frame : Frame) (offset : ℕ) : Option Ipv4Hdr :=
  if offset + ipv4HdrLen ≤ frame.length then some (ipv4HdrAt frame offset) else none

/-- `u32::from_ne_bytes` on a little-endian machine. -/
def fromNeBytes (bytes : Ipv4Addr) : UInt32 :=
  Ipv4Addr.toU32 ⟨bytes.d, bytes.c, bytes.b, bytes.a⟩

lemma fromNeBytes_injective : Function.Injective fromNeBytes := by
  rintro ⟨a, b, c, d⟩ ⟨a', b', c', d'⟩ h
  have hbytes := Ipv4Addr.toU32_injective h
  simp only [Ipv4Addr.mk.injEq] at hbytes ⊢
  obtain ⟨hd, hc, hb, ha⟩ := hbytes
  exact ⟨ha, hb, hc, hd⟩

lemma fromNeBytes_surjective : Function.Surjective fromNeBytes := by
  intro n
  obtain ⟨⟨a, b, c, d⟩, h⟩ := Ipv4Addr.toU32_surjective n
  exact ⟨⟨d, c, b, a⟩, h⟩

/-- `u16::from_be_bytes`. -/
def fromBeBytes (bytes : UInt8 × UInt8) : UInt16 :=
  (bytes.1.toUInt16 <<< 8) ||| bytes.2.toUInt16

/-- `u16::to_be_bytes`. -/
def toBeBytes (word : UInt16) : UInt8 × UInt8 := ((word >>> 8).toUInt8, word.toUInt8)

/-- The word at an offset that is in range. -/
def wordAt (frame : Frame) (offset : ℕ) : UInt16 :=
  fromBeBytes (byteAt frame offset, byteAt frame (offset + 1))

/-- The ports at an offset, without a check of the range. -/
def portsAt (frame : Frame) (offset : ℕ) : UInt16 × UInt16 :=
  (fromBeBytes (byteAt frame offset, byteAt frame (offset + 1)),
    fromBeBytes (byteAt frame (offset + 2), byteAt frame (offset + 3)))

/-- The ports at an offset: all four bytes must be in range. -/
def loadPorts (frame : Frame) (offset : ℕ) : Option (UInt16 × UInt16) :=
  if offset + 4 ≤ frame.length then some (portsAt frame offset) else none

/-- The flow key of the packet at an offset: the ports are read when the packet is TCP or UDP,
its header has no options, and the ports are in range, and are zero otherwise. -/
def flowKey (frame : Frame) (ip : Ipv4Hdr) (offset : ℕ) : FlowKey :=
  let ports :=
    if (ip.proto = ipprotoTcp ∨ ip.proto = ipprotoUdp) ∧ ip.ihl.toNat = ipv4HdrLen then
      (loadPorts frame (offset + ipv4HdrLen)).getD (0, 0)
    else (0, 0)
  ⟨fromNeBytes ip.srcAddr, fromNeBytes ip.dstAddr, ports.1, ports.2, ip.proto⟩

/-- `xdp_flow_key`. -/
def xdpFlowKey (frame : Frame) (ip : Ipv4Hdr) : FlowKey := flowKey frame ip ethHdrLen

/-- `tc_flow_key`. -/
def tcFlowKey (frame : Frame) (ip : Ipv4Hdr) (l2 : ℕ) : FlowKey := flowKey frame ip l2

/-! ## Rewriting -/

/-- The two bytes of a checksum, written at an offset. -/
def writeCheck (frame : Frame) (offset : ℕ) (check : UInt16) : Frame :=
  (frame.set offset (toBeBytes check).1).set (offset + 1) (toBeBytes check).2

/-- The first word of a header, with the TOS byte given. -/
def firstWord (ip : Ipv4Hdr) (tos : UInt8) : UInt16 := (ip.vihl.toUInt16 <<< 8) ||| tos.toUInt16

/-- The end of `try_stamp`: the TOS byte is replaced and the checksum updated in place. -/
def stampTos (frame : Frame) (ip : Ipv4Hdr) (newTos : UInt8) : Frame :=
  let check := fromBeBytes ip.check
  writeCheck (frame.set (ethHdrLen + ipv4TosOffset) newTos) (ethHdrLen + ipv4CheckOffset)
    (csumReplace2 check (firstWord ip ip.tos) (firstWord ip newTos))

/-- `bpf_l3_csum_replace` with a size of two: the same incremental update, in the packet. -/
def l3CsumReplace (frame : Frame) (offset : ℕ) (old new : UInt16) : Frame :=
  let check := fromBeBytes (byteAt frame offset, byteAt frame (offset + 1))
  writeCheck frame offset (csumReplace2 check old new)

/-- The end of `try_terminate`: the store of the TOS byte and the update of the checksum, both
in the range of the header that was loaded. -/
def terminateTos (frame : Frame) (ip : Ipv4Hdr) (l2 : ℕ) (newTos : UInt8) : Frame :=
  l3CsumReplace (frame.set (l2 + ipv4TosOffset) newTos) (l2 + ipv4CheckOffset)
    (firstWord ip ip.tos) (firstWord ip newTos)

/-! ## What a rewrite leaves -/

lemma byteAt_set {frame : Frame} {i : ℕ} (v : UInt8) (h : i < frame.length) :
    byteAt (frame.set i v) i = v := by
  simp [byteAt, h]

lemma byteAt_set_of_ne {frame : Frame} {i j : ℕ} (v : UInt8) (h : i ≠ j) :
    byteAt (frame.set i v) j = byteAt frame j := by
  simp [byteAt, List.getElem?_set_ne h]

lemma byteAt_writeCheck {frame : Frame} {offset i : ℕ} (check : UInt16) (h : offset ≠ i)
    (h' : offset + 1 ≠ i) : byteAt (writeCheck frame offset check) i = byteAt frame i := by
  rw [writeCheck, byteAt_set_of_ne _ h', byteAt_set_of_ne _ h]

/-! ## Words -/

lemma toNat_fromBeBytes (high low : UInt8) :
    (fromBeBytes (high, low)).toNat = 2 ^ 8 * high.toNat + low.toNat := by
  have hhigh := high.toNat_lt
  have hshift : (high.toUInt16 <<< 8).toNat = 2 ^ 8 * high.toNat := by
    rw [UInt16.toNat_shiftLeft, UInt8.toNat_toUInt16]
    have : high.toNat <<< ((8 : UInt16).toNat % 16) = high.toNat * 2 ^ 8 := Nat.shiftLeft_eq _ _
    rw [this]
    omega
  have hlow : low.toUInt16.toNat < 2 ^ 8 := by
    rw [UInt8.toNat_toUInt16]
    exact low.toNat_lt
  rw [fromBeBytes, UInt16.toNat_or, hshift, ← Nat.two_pow_add_eq_or_of_lt hlow,
    UInt8.toNat_toUInt16]

lemma fromBeBytes_toBeBytes (w : UInt16) : fromBeBytes (toBeBytes w) = w := by
  have hw := w.toNat_lt
  have hhigh : (w >>> 8).toNat = w.toNat / 2 ^ 8 := by
    rw [UInt16.toNat_shiftRight]
    exact Nat.shiftRight_eq_div_pow _ 8
  rw [← UInt16.toNat_inj, toBeBytes, toNat_fromBeBytes, UInt16.toNat_toUInt8, UInt16.toNat_toUInt8,
    hhigh]
  omega

/-! ## The TOS byte -/

/-- The TOS byte of the packet at an offset. -/
def tosAt (frame : Frame) (offset : ℕ) : UInt8 := byteAt frame (offset + ipv4TosOffset)

lemma tosAt_stampTos {frame : Frame} (ip : Ipv4Hdr) (newTos : UInt8)
    (h : ethHdrLen + ipv4HdrLen ≤ frame.length) :
    tosAt (stampTos frame ip newTos) ethHdrLen = newTos := by
  rw [stampTos, tosAt, byteAt_writeCheck _ (by decide) (by decide)]
  exact byteAt_set newTos (lt_of_lt_of_le (by decide) h)

lemma tosAt_terminateTos {frame : Frame} (ip : Ipv4Hdr) {l2 : ℕ} (newTos : UInt8)
    (h : l2 + ipv4HdrLen ≤ frame.length) :
    tosAt (terminateTos frame ip l2 newTos) l2 = newTos := by
  simp only [ipv4HdrLen] at h
  rw [terminateTos, l3CsumReplace, tosAt, byteAt_writeCheck, byteAt_set]
  · simp only [ipv4TosOffset]
    omega
  · simp [ipv4TosOffset, ipv4CheckOffset]
  · simp only [ipv4TosOffset, ipv4CheckOffset]
    omega

end Dumbarp.Ebpf
