/-
The steering of tagged packets: the map `DSCP_IDS` as the daemon of a router fills it
(`dumbarp-routerd/src/datapath.rs`) and as its classifier reads it
(`dumbarp-routerd-ebpf/src/main.rs`).

The operations on a kernel map can fail one by one, so `sync_ids` takes the outcome of each as
a parameter.  When all succeed, the map holds each id under itself and nothing else, whatever it
held before.
-/
import Dumbarp.Lib.HashMap
import Dumbarp.Common
import Mathlib.Tactic.Common

namespace Dumbarp.Routerd

/-! ## The map of the ids -/

/-- The content of the map `DSCP_IDS`. -/
abbrev DscpIds : Type := HashMap UInt8 UInt32

/-- The outcomes of the map operations of one `sync_ids`. -/
structure MapOutcome where
  /-- The program has the map. -/
  found : Bool
  /-- The iteration over the keys gives this key. -/
  listed : UInt8 → Bool
  removed : UInt8 → Bool
  inserted : UInt8 → Bool

/-- The errors of `sync_ids`. -/
inductive SyncError where
  | notFound
  | inserting (id : UInt8)
deriving DecidableEq, Repr

/-- Every map operation succeeds. -/
structure MapOutcome.Succeeds (o : MapOutcome) : Prop where
  found : o.found = true
  listed : ∀ k, o.listed k = true
  removed : ∀ k, o.removed k = true
  inserted : ∀ k, o.inserted k = true

/-- The first loop of `sync_ids`: drop the keys that are no ids of the pass. -/
def removeStale (o : MapOutcome) (ids existing : List UInt8) (map : DscpIds) : DscpIds :=
  existing.foldl
    (fun map id => if id ∉ ids then if o.removed id then map.erase id else map else map) map

/-- The second loop of `sync_ids`: it ends at the first id that cannot be inserted. -/
def insertIds (o : MapOutcome) : List UInt8 → DscpIds → Except SyncError Unit × DscpIds
  | [], map => (.ok (), map)
  | id :: ids, map =>
    if o.inserted id then insertIds o ids (map.insert id id.toUInt32)
    else (.error (.inserting id), map)

/-- `Datapath::sync_ids`, for the ids in the order of their hash set. -/
def syncIds (o : MapOutcome) (ids : List UInt8) (map : DscpIds) :
    Except SyncError Unit × DscpIds :=
  if o.found then
    let existing := map.keys.filter o.listed
    insertIds o ids (removeStale o ids existing map)
  else (.error .notFound, map)

/-! ## The classifier -/

/-- What the classifier sees of a packet: its protocol, and its bytes from the network header. -/
structure Skb where
  protocol : UInt32
  net : List UInt8

/-- `load_net_u8`: the load fails past the end of the packet. -/
def loadNetU8 (skb : Skb) (offset : ℕ) : Option UInt8 := skb.net[offset]?

/-- What the classifier does to a packet, which it always lets pass: the mark it sets, if any,
and the counter it bumps. -/
structure Steered where
  mark : Option UInt32
  counter : CounterSlot
deriving DecidableEq, Repr

/-- `steer`. -/
def steer (dscpIds : DscpIds) (skb : Skb) : Steered :=
  if skb.protocol ≠ etherTypeIpv4 then ⟨none, .skipped⟩
  else
    match loadNetU8 skb ipv4TosOffset with
    | none => ⟨none, .skipped⟩
    | some tos =>
      let dscp := tos >>> 2
      if dscp ≠ 0 then
        match dscpIds.lookup dscp with
        | some mark => ⟨some mark, .tagged⟩
        | none => ⟨none, .untagged⟩
      else ⟨none, .untagged⟩

/-- The DSCP field of an IPv4 packet. -/
def dscpOf (skb : Skb) : Option UInt8 :=
  if skb.protocol = etherTypeIpv4 then do
    let tos ← loadNetU8 skb ipv4TosOffset
    return tos >>> 2
  else none

/-! ## What they agree on -/

section Sync

variable {o : MapOutcome} {ids : List UInt8}

lemma lookup_removeStale (ho : o.Succeeds) (k : UInt8) :
    ∀ (existing : List UInt8) (map : DscpIds),
      (removeStale o ids existing map).lookup k
        = if k ∈ existing ∧ k ∉ ids then none else map.lookup k
  | [], map => by simp [removeStale]
  | id :: existing, map => by
    have ih := lookup_removeStale ho k existing
    simp only [removeStale] at ih ⊢
    rw [List.foldl_cons, ih]
    by_cases hid : id ∉ ids
    · by_cases hk : k = id
      · subst hk
        simp [hid, ho.removed]
      · simp [hid, ho.removed, hk, AList.lookup_erase_ne hk]
    · by_cases hk : k = id
      · subst hk
        simp [hid]
      · simp [hid, hk]

lemma insertIds_succeeds (ho : o.Succeeds) :
    ∀ (ids : List UInt8) (map : DscpIds), (insertIds o ids map).1 = .ok () ∧
      ∀ k, (insertIds o ids map).2.lookup k
        = if k ∈ ids then some k.toUInt32 else map.lookup k
  | [], map => by simp [insertIds]
  | id :: ids, map => by
    obtain ⟨hok, hlookup⟩ := insertIds_succeeds ho ids (map.insert id id.toUInt32)
    simp only [insertIds, ho.inserted, if_true]
    refine ⟨hok, fun k => ?_⟩
    rw [hlookup]
    by_cases hk : k = id
    · subst hk
      simp
    · simp [hk, AList.lookup_insert_ne hk]

/-- **The map after a sync** holds the ids of the pass, each under itself. -/
theorem syncIds_succeeds (ho : o.Succeeds) (map : DscpIds) :
    (syncIds o ids map).1 = .ok () ∧
      ∀ k, (syncIds o ids map).2.lookup k = if k ∈ ids then some k.toUInt32 else none := by
  -- every key is listed, whatever the map held before
  have hall : map.keys.filter o.listed = map.keys :=
    List.filter_eq_self.mpr fun k _ => ho.listed k
  simp only [syncIds, ho.found, if_true, hall]
  obtain ⟨hok, hlookup⟩ := insertIds_succeeds ho ids (removeStale o ids map.keys map)
  refine ⟨hok, fun k => ?_⟩
  rw [hlookup]
  split
  · rfl
  · -- an old key that is no id of the pass was removed by the first loop
    rename_i hk
    rw [lookup_removeStale ho]
    split
    · rfl
    · rename_i hold
      have hno : k ∉ map.keys := fun h => hold ⟨h, hk⟩
      exact AList.lookup_eq_none.mpr fun h => hno (AList.mem_keys.mp h)

end Sync

/-- The classifier sets a mark on the packets with a DSCP that the map holds. -/
lemma steer_mark_iff {dscpIds : DscpIds} {skb : Skb} {m : UInt32} :
    (steer dscpIds skb).mark = some m ↔
      ∃ dscp, dscpOf skb = some dscp ∧ dscp ≠ 0 ∧ dscpIds.lookup dscp = some m := by
  by_cases hp : skb.protocol = etherTypeIpv4
  · cases hl : loadNetU8 skb ipv4TosOffset with
    | none => simp [steer, dscpOf, hp, hl]
    | some tos =>
      by_cases hz : tos >>> 2 = 0
      · simp [steer, dscpOf, hp, hl, hz]
      · cases hm : dscpIds.lookup (tos >>> 2) with
        | none => simp [steer, dscpOf, hp, hl, hz, hm]
        | some mark => simp [steer, dscpOf, hp, hl, hz, hm]
  · simp [steer, dscpOf, hp]

end Dumbarp.Routerd
