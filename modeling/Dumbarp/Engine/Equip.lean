/-
What an attached interface is equipped with.

With an id the engine stores it for the interface and attaches the egress program beside the other;
without one it does neither.  So the ids in the map are all the one that the engine was given.
-/
import Dumbarp.Engine.Mirror

namespace Dumbarp.Engine

open Interact Interact.Prog Ebpf

/-! ## The ids in the map -/

/-- An id that is stored is this one. -/
def StoresOnly (dscpId : Option UInt8) : EngineOp → Prop
  | .ifaceInsert .dscpId _ v => dscpId = some v
  | _ => True

/-- The ids in the map are all this one. -/
def IdsAre (dscpId : Option UInt8) (h : Host) : Prop :=
  ∀ i v, h.dscpId.lookup i = some v → dscpId = some v

section Ids

variable {dscpId : Option UInt8} {h h' : Host} {op : EngineOp} {r : op.Res}

/-- The step lemma of the ids. -/
lemma IdsAre.step (hids : IdsAre dscpId h) (hop : StoresOnly dscpId op)
    (hs : HostStep h op r h') : IdsAre dscpId h' := by
  cases hs with
  | ifaceInsert _ map i v =>
    cases map with
    | l2Len => exact hids
    | dscpId =>
      intro j w hj
      rcases HashMap.lookup_insert_cases hj with ⟨-, rfl⟩ | hj
      · exact hop
      · exact hids j w hj
  | @ifaceRemove _ map i =>
    cases map with
    | l2Len => exact hids
    | dscpId => exact fun j w hj => hids j w (HashMap.lookup_of_erase hj).2
  | _ => exact hids

end Ids

lemma reads_storesOnly {α : Type} {dscpId : Option UInt8} {p : Syscalls α} (hp : Makes IsRead p) :
    Makes (StoresOnly dscpId) p := by
  refine hp.mono ?_
  rintro - ⟨path, rfl⟩
  trivial

lemma detachXdp_storesOnly (dscpId : Option UInt8) (link : LinkId) :
    Makes (StoresOnly dscpId) (detachXdp link) := ⟨trivial, fun _ => trivial⟩

lemma clearArpEntry_storesOnly (dscpId : Option UInt8) (key : ArpKey) :
    Makes (StoresOnly dscpId) (clearArpEntry key) := ⟨trivial, fun _ => trivial⟩

lemma clearIfaceMaps_storesOnly (dscpId : Option UInt8) (i : UInt32) :
    Makes (StoresOnly dscpId) (clearIfaceMaps i) :=
  ⟨trivial, fun _ => ⟨trivial, fun _ => trivial⟩⟩

lemma attachEgress_storesOnly (iface : String) (i : UInt32) (id : UInt8) :
    Makes (StoresOnly (some id)) (attachEgress iface i id) := by
  refine ⟨rfl, fun r => ?_⟩
  cases r with
  | error e => trivial
  | ok u =>
    refine Makes.bind (p := ifaceL2Len iface) (reads_storesOnly (ifaceL2Len_reads iface))
      fun len => ?_
    cases len with
    | error e => trivial
    | ok len =>
      refine ⟨trivial, fun r => ?_⟩
      cases r with
      | error e => trivial
      | ok u =>
        refine ⟨trivial, fun _ => ⟨trivial, fun r => ?_⟩⟩
        cases r <;> trivial

lemma addInterface_storesOnly (attached : Attachments) (iface : String) (ip : Ipv4Addr)
    (dscpId : Option UInt8) :
    Makes (StoresOnly dscpId) (addInterface attached iface ip dscpId) := by
  rw [addInterface]
  split
  · trivial
  refine (reads_storesOnly (ifaceMac_reads iface)).bind fun mac => ?_
  cases mac with
  | error e => trivial
  | ok mac =>
    refine (reads_storesOnly (ifaceIfindex_reads iface)).bind fun i => ?_
    cases i with
    | error e => trivial
    | ok i =>
      refine ⟨trivial, fun r => ?_⟩
      cases r with
      | error e => trivial
      | ok link =>
        refine ⟨trivial, fun r => ?_⟩
        cases r with
        | error e => exact (detachXdp_storesOnly dscpId link).bind fun _ => trivial
        | ok u =>
          have hegress : Makes (StoresOnly dscpId) (attachEgressIf iface i dscpId) := by
            cases dscpId with
            | none => trivial
            | some id =>
              refine (attachEgress_storesOnly iface i id).bind fun res => ?_
              cases res <;> trivial
          show Makes (StoresOnly dscpId) ((attachEgressIf iface i dscpId).bind _)
          refine hegress.bind fun res => ?_
          cases res with
          | error e =>
            refine (clearArpEntry_storesOnly dscpId _).bind fun _ => ?_
            refine (clearIfaceMaps_storesOnly dscpId i).bind fun _ => ?_
            exact (detachXdp_storesOnly dscpId link).bind fun _ => trivial
          | ok link' => trivial

lemma removeInterface_storesOnly (dscpId : Option UInt8) (attached : Attachments)
    (iface : String) : Makes (StoresOnly dscpId) (removeInterface attached iface) := by
  rw [removeInterface]
  cases attached.lookup iface with
  | none => trivial
  | some a =>
    have hegress : Makes (StoresOnly dscpId) (detachEgress a.tcLinkId a.ifindex) := by
      cases a.tcLinkId with
      | none => trivial
      | some link => exact ⟨trivial, fun _ => clearIfaceMaps_storesOnly dscpId a.ifindex⟩
    refine hegress.bind fun _ => (clearArpEntry_storesOnly dscpId a.key).bind fun _ => ?_
    refine ⟨trivial, fun r => ?_⟩
    cases r <;> trivial

/-! ## The egress links -/

/-- The egress program is attached where there is an id. -/
def EgressWithId (dscpId : Option UInt8) (attached : Attachments) : Prop :=
  ∀ iface a, attached.lookup iface = some a → a.tcLinkId.isSome = dscpId.isSome

lemma EgressWithId.erase {dscpId : Option UInt8} {attached : Attachments}
    (h : EgressWithId dscpId attached) (iface : String) :
    EgressWithId dscpId (attached.erase iface) :=
  fun j a hj => h j a (HashMap.lookup_of_erase hj).2

lemma attachEgressIf_ends (iface : String) (i : UInt32) (dscpId : Option UInt8) :
    Ends (fun r => ∀ link, r = .ok link → link.isSome = dscpId.isSome)
      (attachEgressIf iface i dscpId) := by
  cases dscpId with
  | none => exact fun link hl => Except.ok.inj hl ▸ rfl
  | some id =>
    refine ends_bind fun r => ?_
    cases r with
    | error e => exact nofun
    | ok link => exact fun link' hl => Except.ok.inj hl ▸ rfl

/-- An add keeps the egress links where they belong, whatever the system answers. -/
lemma addInterface_egress {dscpId : Option UInt8} {attached : Attachments}
    (h : EgressWithId dscpId attached) (iface : String) (ip : Ipv4Addr) :
    Ends (fun r => EgressWithId dscpId r.2) (addInterface attached iface ip dscpId) := by
  rw [addInterface]
  split
  · exact h
  refine ends_bind fun mac => ?_
  cases mac with
  | error e => exact h
  | ok mac =>
    refine ends_bind fun i => ?_
    cases i with
    | error e => exact h
    | ok i =>
      intro r
      cases r with
      | error e => exact h
      | ok link =>
        intro r
        cases r with
        | error e =>
          show Ends _ ((detachXdp link).bind _)
          exact ends_bind fun _ => h
        | ok u =>
          show Ends _ ((attachEgressIf iface i dscpId).bind _)
          refine (attachEgressIf_ends iface i dscpId).bind fun r hr => ?_
          cases r with
          | error e =>
            show Ends _ ((clearArpEntry (arpKeyFor i ip)).bind fun _ => (clearIfaceMaps i).bind
              fun _ => (detachXdp link).bind _)
            exact ends_bind fun _ => ends_bind fun _ => ends_bind fun _ => h
          | ok tcLinkId =>
            intro j a hj
            rcases HashMap.lookup_insert_cases hj with ⟨-, rfl⟩ | hj
            · exact hr tcLinkId rfl
            · exact h j a hj

/-! ## The equipment -/

/-- **The engine and the system as they belong together**, for an engine that is always given the
same id. -/
structure Equipped (dscpId : Option UInt8) (attached : Attachments) (h : Host) : Prop where
  mirrors : Mirrors attached h
  distinct : Distinct attached
  ids : IdsAre dscpId h
  egress : EgressWithId dscpId attached

section Equipped

variable {dscpId : Option UInt8} {attached attached' : Attachments} {h h' : Host}
  {iface : String} {es : List EngineEvent} {res : Except AnyhowError Unit}

lemma equipped_loaded (dscpId : Option UInt8) : Equipped dscpId ∅ Host.loaded where
  mirrors := mirrors_loaded
  distinct := distinct_empty
  ids i v hi := by simp [Host.loaded] at hi
  egress iface a ha := by simp at ha

lemma Equipped.remove (he : Equipped dscpId attached h)
    (hrun : Runs HostStep (removeInterface attached iface) h es (res, attached') h') :
    Equipped dscpId attached' h' := by
  have hids : IdsAre dscpId h' :=
    (removeInterface_storesOnly dscpId attached iface).preserves
      (fun _ _ _ _ hop hs hids => hids.step hop hs) hrun he.ids
  rcases removeInterface_runs he.mirrors hrun with ⟨-, rfl, rfl⟩ | ⟨a, ha, -, rfl, rfl⟩
  · exact he
  · exact ⟨he.mirrors.erase he.distinct ha, he.distinct.erase, hids, he.egress.erase iface⟩

lemma Equipped.add (he : Equipped dscpId attached h) {ip : Ipv4Addr}
    (hrun : Runs HostStep (addInterface attached iface ip dscpId) h es (res, attached') h')
    (hshare : NoShare attached es) : Equipped dscpId attached' h' := by
  have hcall : Runs HostStep ((Call.add iface ip dscpId).prog attached) h es (res, attached') h' :=
    hrun
  obtain ⟨hmirrors, hdistinct⟩ := call_mirrors he.mirrors he.distinct hcall hshare
  exact ⟨hmirrors, hdistinct,
    (addInterface_storesOnly attached iface ip dscpId).preserves
      (fun _ _ _ _ hop hs hids => hids.step hop hs) hrun he.ids,
    (addInterface_egress he.egress iface ip).runs hrun⟩

end Equipped

end Dumbarp.Engine
