/-
IPv4 addresses, their order and their text.

`Ipv4Addr` is the address of Rust's standard library: four octets, read as a big-endian
number by `u32::from`, printed as dotted decimal, and parsed back from exactly that form
(four decimal octets without leading zeros).
-/
import Mathlib.Data.UInt
import Mathlib.Order.Lattice
import Mathlib.Tactic.Lemma

namespace Dumbarp

/-- An IPv4 address, as its four octets in the order they are written. -/
structure Ipv4Addr where
  a : UInt8
  b : UInt8
  c : UInt8
  d : UInt8
deriving DecidableEq, Repr

namespace Ipv4Addr

/-- The address as a big-endian number (`u32::from`). -/
def toU32 (ip : Ipv4Addr) : UInt32 :=
  UInt32.ofNat (ip.a.toNat * 2 ^ 24 + ip.b.toNat * 2 ^ 16 + ip.c.toNat * 2 ^ 8 + ip.d.toNat)

/-- The octets, in network order (`octets`). -/
def bytes (ip : Ipv4Addr) : List UInt8 := [ip.a, ip.b, ip.c, ip.d]

lemma toNat_toU32 (ip : Ipv4Addr) :
    ip.toU32.toNat =
      ip.a.toNat * 2 ^ 24 + ip.b.toNat * 2 ^ 16 + ip.c.toNat * 2 ^ 8 + ip.d.toNat := by
  have ha := ip.a.toNat_lt
  have hb := ip.b.toNat_lt
  have hc := ip.c.toNat_lt
  have hd := ip.d.toNat_lt
  rw [toU32, UInt32.toNat_ofNat_of_lt']
  simp only [UInt32.size]
  omega

lemma toU32_injective : Function.Injective toU32 := by
  rintro ⟨a, b, c, d⟩ ⟨a', b', c', d'⟩ h
  have hn := congrArg UInt32.toNat h
  simp only [toNat_toU32] at hn
  have ha := a.toNat_lt; have hb := b.toNat_lt; have hc := c.toNat_lt; have hd := d.toNat_lt
  have ha' := a'.toNat_lt; have hb' := b'.toNat_lt
  have hc' := c'.toNat_lt; have hd' := d'.toNat_lt
  simp only [mk.injEq, ← UInt8.toNat_inj]
  omega

lemma toU32_surjective : Function.Surjective toU32 := by
  intro n
  refine ⟨⟨UInt8.ofNat (n.toNat / 2 ^ 24), UInt8.ofNat (n.toNat / 2 ^ 16),
    UInt8.ofNat (n.toNat / 2 ^ 8), UInt8.ofNat n.toNat⟩, ?_⟩
  have hn := n.toNat_lt
  rw [← UInt32.toNat_inj, toNat_toU32]
  simp only [UInt8.toNat_ofNat']
  omega

/-- Addresses are ordered as the numbers they stand for. -/
instance : LinearOrder Ipv4Addr :=
  LinearOrder.lift' (fun ip => ip.toU32.toNat) fun _ _ h => toU32_injective (UInt32.toNat_inj.mp h)

/-! ## The text of an address -/

/-- The decimal digits of an octet. -/
def octetText (o : UInt8) : List Char := Nat.toDigits 10 o.toNat

/-- Dotted decimal, as the characters of `to_string`. -/
def text (ip : Ipv4Addr) : List Char :=
  ['.'].intercalate [octetText ip.a, octetText ip.b, octetText ip.c, octetText ip.d]

/-- The address printed by `to_string`. -/
def toString (ip : Ipv4Addr) : String := String.ofList ip.text

/-- Read one octet: one to three digits, no leading zero, at most 255. -/
def parseOctet (cs : List Char) : Option UInt8 :=
  if cs ≠ [] ∧ cs.length ≤ 3 ∧ cs.all Char.isDigit ∧ (cs.head? = some '0' → cs.length = 1) then
    let n := cs.foldl (fun n c => n * 10 + (c.toNat - '0'.toNat)) 0
    if n < 256 then some (UInt8.ofNat n) else none
  else none

/-- Read an address from dotted decimal (`str::parse`). -/
def parse (s : String) : Option Ipv4Addr :=
  match s.toList.splitOn '.' with
  | [a, b, c, d] => do
    return ⟨← parseOctet a, ← parseOctet b, ← parseOctet c, ← parseOctet d⟩
  | _ => none

lemma parseOctet_octetText (o : UInt8) : parseOctet (octetText o) = some o := by
  have hall : ∀ n : Fin 256, parseOctet (octetText (UInt8.ofFin n)) = some (UInt8.ofFin n) := by
    decide +kernel
  exact hall o.toFin

lemma octetText_digits (o : UInt8) : ∀ c ∈ octetText o, c.isDigit := by
  have hall : ∀ n : Fin 256, (octetText (UInt8.ofFin n)).all Char.isDigit = true := by
    decide +kernel
  intro c hc
  exact List.all_eq_true.mp (hall o.toFin) c hc

lemma dot_notMem_octetText (o : UInt8) : '.' ∉ octetText o := fun h =>
  absurd (octetText_digits o '.' h) (by decide)

/-- The text of an address is made of digits and dots. -/
lemma text_chars (ip : Ipv4Addr) : ∀ c ∈ ip.text, c = '.' ∨ c.isDigit = true := by
  intro c hc
  simp only [text, List.intercalate, List.intersperse, List.flatten_cons, List.flatten_nil,
    List.mem_append, List.mem_singleton, List.not_mem_nil, or_false] at hc
  rcases hc with h | rfl | h | rfl | h | rfl | h
  · exact Or.inr (octetText_digits _ c h)
  · exact Or.inl rfl
  · exact Or.inr (octetText_digits _ c h)
  · exact Or.inl rfl
  · exact Or.inr (octetText_digits _ c h)
  · exact Or.inl rfl
  · exact Or.inr (octetText_digits _ c h)

/-- **An address is read back from its text.** -/
theorem parse_toString (ip : Ipv4Addr) : parse ip.toString = some ip := by
  have hsplit : ip.text.splitOn '.' =
      [octetText ip.a, octetText ip.b, octetText ip.c, octetText ip.d] := by
    refine List.splitOn_intercalate '.' ?_ (by simp)
    intro l hl
    simp only [List.mem_cons, List.not_mem_nil, or_false] at hl
    rcases hl with rfl | rfl | rfl | rfl <;> exact dot_notMem_octetText _
  rw [parse, toString, String.toList_ofList, hsplit]
  simp [parseOctet_octetText]

lemma toString_injective : Function.Injective toString := by
  intro x y h
  have hp := congrArg parse h
  rwa [parse_toString, parse_toString, Option.some.injEq] at hp

lemma text_injective : Function.Injective text := fun _ _ h =>
  toString_injective (congrArg String.ofList h)

end Ipv4Addr

end Dumbarp
