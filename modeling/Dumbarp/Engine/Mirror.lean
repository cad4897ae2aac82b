/-
The kernel's maps mirror the attachments of the engine.

`Mirrors` says that links and maps hold exactly what `attached` remembers.  An add that fails
changes neither side, one that succeeds and a remove change both alike, so `Mirrors` holds
after any sequence of calls.
-/
import Dumbarp.Engine.Host

namespace Dumbarp.Engine

open Interact Interact.Prog Ebpf
open HashMap (lookup_of_erase lookup_insert_cases)

/-! ## The mirror -/

/-- The links that are there are those that `linkOf` remembers, each with its interface. -/
def LinksMirror (attached : Attachments) (linkOf : Attached → Option LinkId)
    (links : HashMap LinkId String) : Prop :=
  ∀ link iface, links.lookup link = some iface ↔
    ∃ a, attached.lookup iface = some a ∧ linkOf a = some link

/-- The keys of the map are those that `keyOf` remembers. -/
def KeysMirror {K V : Type} (attached : Attachments) (keyOf : Attached → Option K)
    (m : HashMap K V) : Prop :=
  ∀ k, k ∈ m ↔ ∃ iface a, attached.lookup iface = some a ∧ keyOf a = some k

/-- The index of an interface that has an egress link. -/
def Attached.egressIfindex (a : Attached) : Option UInt32 := a.tcLinkId.map fun _ => a.ifindex

/-- **Links and maps mirror the attachments.**  The XDP links are those of the attached
interfaces and the egress links those of the interfaces that have one, the keys of `ARP_TABLE`
are the stored ones, and `DSCP_ID` and `L2_LEN` have an entry for exactly the interfaces with an
egress link. -/
structure Mirrors (attached : Attachments) (h : Host) : Prop where
  xdp : LinksMirror attached (fun a => some a.linkId) h.xdp
  tc : LinksMirror attached Attached.tcLinkId h.tc
  arp : KeysMirror attached (fun a => some a.key) h.arpTable
  dscpId : KeysMirror attached Attached.egressIfindex h.dscpId
  l2Len : KeysMirror attached Attached.egressIfindex h.l2Len

/-- The keys are those of the interfaces, and no two interfaces share an index. -/
structure Distinct (attached : Attachments) : Prop where
  key : ∀ {iface a}, attached.lookup iface = some a → a.key.ifindex = a.ifindex
  ifindex : ∀ {i₁ i₂ a₁ a₂}, attached.lookup i₁ = some a₁ → attached.lookup i₂ = some a₂ →
    a₁.ifindex = a₂.ifindex → i₁ = i₂

section Table

variable {attached : Attachments} {iface : String} {a : Attached}

/-- What is remembered of an interface once a new one was added. -/
lemma remembered_insert {j : String} {P : Attached → Prop} (hiface : iface ∉ attached) :
    (∃ b, (attached.insert iface a).lookup j = some b ∧ P b) ↔
      (j = iface ∧ P a) ∨ ∃ b, attached.lookup j = some b ∧ P b := by
  constructor
  · rintro ⟨b, hj, hP⟩
    rcases lookup_insert_cases hj with ⟨hji, rfl⟩ | hj
    · exact Or.inl ⟨hji, hP⟩
    · exact Or.inr ⟨b, hj, hP⟩
  · rintro (⟨rfl, hP⟩ | ⟨b, hj, hP⟩)
    · exact ⟨a, AList.lookup_insert attached, hP⟩
    · exact ⟨b, HashMap.lookup_insert_of_notMem hiface hj, hP⟩

/-- What is remembered of an interface once one was removed. -/
lemma remembered_erase {j : String} {P : Attached → Prop} :
    (∃ b, (attached.erase iface).lookup j = some b ∧ P b) ↔
      j ≠ iface ∧ ∃ b, attached.lookup j = some b ∧ P b := by
  constructor
  · rintro ⟨b, hj, hP⟩
    obtain ⟨hne, hj⟩ := lookup_of_erase hj
    exact ⟨hne, b, hj, hP⟩
  · rintro ⟨hne, b, hj, hP⟩
    exact ⟨b, (AList.lookup_erase_ne hne).trans hj, hP⟩

lemma Distinct.insert (hd : Distinct attached) (hkey : a.key.ifindex = a.ifindex)
    (hfresh : ∀ j b, attached.lookup j = some b → b.ifindex ≠ a.ifindex) :
    Distinct (attached.insert iface a) := by
  constructor
  · intro j b hj
    rcases lookup_insert_cases hj with ⟨-, rfl⟩ | hj
    · exact hkey
    · exact hd.key hj
  · intro i₁ i₂ a₁ a₂ h₁ h₂ he
    rcases lookup_insert_cases h₁ with ⟨hi₁, ha₁⟩ | h₁ <;>
      rcases lookup_insert_cases h₂ with ⟨hi₂, ha₂⟩ | h₂
    · exact hi₁.trans hi₂.symm
    · exact absurd (ha₁ ▸ he.symm) (hfresh _ _ h₂)
    · exact absurd (ha₂ ▸ he) (hfresh _ _ h₁)
    · exact hd.ifindex h₁ h₂ he

lemma Distinct.erase (hd : Distinct attached) : Distinct (attached.erase iface) :=
  ⟨fun hj => hd.key (lookup_of_erase hj).2,
    fun h₁ h₂ => hd.ifindex (lookup_of_erase h₁).2 (lookup_of_erase h₂).2⟩

variable {linkOf : Attached → Option LinkId} {links : HashMap LinkId String}

/-- An interface without such a link makes no difference to the links. -/
lemma LinksMirror.insert_none (hm : LinksMirror attached linkOf links) (hiface : iface ∉ attached)
    (ha : linkOf a = none) : LinksMirror (attached.insert iface a) linkOf links := by
  intro link j
  rw [hm, remembered_insert hiface, ha]
  simp

lemma LinksMirror.insert (hm : LinksMirror attached linkOf links) (hiface : iface ∉ attached)
    {link : LinkId} (ha : linkOf a = some link) (hfresh : link ∉ links) :
    LinksMirror (attached.insert iface a) linkOf (links.insert link iface) := by
  intro link' j
  rw [remembered_insert hiface, ← hm, ha]
  by_cases hl : link' = link
  · -- nobody else remembers the new link
    subst hl
    rw [AList.lookup_insert, AList.lookup_eq_none.mpr hfresh]
    simp [eq_comm]
  · rw [AList.lookup_insert_ne hl]
    simp [Ne.symm hl]

lemma LinksMirror.erase_none (hm : LinksMirror attached linkOf links)
    (hiface : attached.lookup iface = some a) (ha : linkOf a = none) :
    LinksMirror (attached.erase iface) linkOf links := by
  intro link j
  rw [hm, remembered_erase, iff_and_self]
  rintro ⟨b, hj, hb⟩ rfl
  rw [Option.some.inj (hj.symm.trans hiface), ha] at hb
  cases hb

lemma LinksMirror.erase (hm : LinksMirror attached linkOf links)
    (hiface : attached.lookup iface = some a) {link : LinkId} (ha : linkOf a = some link) :
    LinksMirror (attached.erase iface) linkOf (links.erase link) := by
  have howner : links.lookup link = some iface := (hm _ _).mpr ⟨a, hiface, ha⟩
  intro link' j
  rw [remembered_erase, ← hm]
  by_cases hl : link' = link
  · subst hl
    rw [AList.lookup_erase, howner]
    simp [eq_comm]
  · rw [AList.lookup_erase_ne hl, iff_and_self]
    rintro hj rfl
    obtain ⟨b, hb, hlink⟩ := (hm _ _).mp hj
    rw [Option.some.inj (hb.symm.trans hiface), ha] at hlink
    exact hl (Option.some.inj hlink).symm

variable {K V : Type} {keyOf : Attached → Option K} {m : HashMap K V}

lemma KeysMirror.insert_none (hm : KeysMirror attached keyOf m) (hiface : iface ∉ attached)
    (ha : keyOf a = none) : KeysMirror (attached.insert iface a) keyOf m := by
  intro k
  rw [hm, HashMap.exists_lookup_insert hiface, ha]
  simp

lemma KeysMirror.insert [DecidableEq K] (hm : KeysMirror attached keyOf m)
    (hiface : iface ∉ attached) {k : K} (ha : keyOf a = some k) (v : V) :
    KeysMirror (attached.insert iface a) keyOf (m.insert k v) := by
  intro k'
  rw [AList.mem_insert, HashMap.exists_lookup_insert hiface, ← hm, ha, Option.some.injEq, eq_comm]

lemma KeysMirror.erase_none (hm : KeysMirror attached keyOf m)
    (hiface : attached.lookup iface = some a) (ha : keyOf a = none) :
    KeysMirror (attached.erase iface) keyOf m := by
  intro k
  rw [hm, HashMap.exists_lookup_erase]
  constructor
  · rintro ⟨j, b, hj, hb⟩
    refine ⟨j, b, hj, ?_, hb⟩
    rintro rfl
    rw [Option.some.inj (hj.symm.trans hiface), ha] at hb
    cases hb
  · rintro ⟨j, b, hj, -, hb⟩
    exact ⟨j, b, hj, hb⟩

/-- The key of an interface is removed with it, if no other interface has the same key. -/
lemma KeysMirror.erase [DecidableEq K] (hm : KeysMirror attached keyOf m)
    (hiface : attached.lookup iface = some a) {k : K} (ha : keyOf a = some k)
    (hsole : ∀ j b, attached.lookup j = some b → keyOf b = some k → j = iface) :
    KeysMirror (attached.erase iface) keyOf (m.erase k) := by
  intro k'
  rw [AList.mem_erase, hm, HashMap.exists_lookup_erase]
  constructor
  · rintro ⟨hk, j, b, hj, hb⟩
    refine ⟨j, b, hj, ?_, hb⟩
    rintro rfl
    rw [Option.some.inj (hj.symm.trans hiface), ha] at hb
    exact hk (Option.some.inj hb).symm
  · rintro ⟨j, b, hj, hne, hb⟩
    exact ⟨fun hk => hne (hsole j b hj (hk ▸ hb)), j, b, hj, hb⟩

end Table

section Mirror

variable {attached : Attachments} {h h' : Host} {iface : String} {a : Attached}

lemma mirrors_loaded : Mirrors ∅ Host.loaded where
  xdp link iface := by simp [Host.loaded]
  tc link iface := by simp [Host.loaded]
  arp key := by simp [Host.loaded]
  dscpId i := by simp [Host.loaded]
  l2Len i := by simp [Host.loaded]

lemma distinct_empty : Distinct ∅ where
  key h := by simp at h
  ifindex h := by simp at h

/-- An interface with an index of its own is added on both sides. -/
lemma Mirrors.insert (hm : Mirrors attached h) (hiface : iface ∉ attached)
    (hadd : Added h h' iface a) : Mirrors (attached.insert iface a) h' := by
  obtain ⟨hfresh, mac, h₁, rfl, hegress⟩ := hadd
  have hxdp := hm.xdp.insert hiface (a := a) rfl hfresh
  have harp := hm.arp.insert hiface (a := a) rfl mac
  rcases hegress with ⟨hnone, rfl⟩ | ⟨link, hsome, hfresh', id, len, rfl⟩
  · have hno : a.egressIfindex = none := by rw [Attached.egressIfindex, hnone, Option.map_none]
    exact ⟨hxdp, hm.tc.insert_none hiface hnone, harp, hm.dscpId.insert_none hiface hno,
      hm.l2Len.insert_none hiface hno⟩
  · have hindex : a.egressIfindex = some a.ifindex := by
      rw [Attached.egressIfindex, hsome, Option.map_some]
    exact ⟨hxdp, hm.tc.insert hiface hsome hfresh', harp, hm.dscpId.insert hiface hindex id,
      hm.l2Len.insert hiface hindex len⟩

/-- An interface is removed on both sides. -/
lemma Mirrors.erase (hm : Mirrors attached h) (hd : Distinct attached)
    (hiface : attached.lookup iface = some a) : Mirrors (attached.erase iface) (h.removed a) := by
  have hkey (j : String) (b : Attached) (hj : attached.lookup j = some b)
      (hb : some b.key = some a.key) : j = iface := by
    refine hd.ifindex hj hiface ?_
    rw [← hd.key hj, ← hd.key hiface, Option.some.inj hb]
  have hxdp : LinksMirror (attached.erase iface) (fun a => some a.linkId) (h.xdp.erase a.linkId) :=
    hm.xdp.erase hiface rfl
  have harp := hm.arp.erase hiface (k := a.key) rfl hkey
  rw [Host.removed, egressRemoved_xdp, egressRemoved_arpTable, Host.egressRemoved]
  cases hlink : a.tcLinkId with
  | none =>
    have hno : a.egressIfindex = none := by rw [Attached.egressIfindex, hlink, Option.map_none]
    exact ⟨hxdp, hm.tc.erase_none hiface hlink, harp, hm.dscpId.erase_none hiface hno,
      hm.l2Len.erase_none hiface hno⟩
  | some link =>
    have hindex : a.egressIfindex = some a.ifindex := by
      rw [Attached.egressIfindex, hlink, Option.map_some]
    have hsole (j : String) (b : Attached) (hj : attached.lookup j = some b)
        (hb : b.egressIfindex = some a.ifindex) : j = iface := by
      obtain ⟨-, -, he⟩ := Option.map_eq_some_iff.mp hb
      exact hd.ifindex hj hiface he
    exact ⟨hxdp, hm.tc.erase hiface hlink, harp, hm.dscpId.erase hiface hindex hsole,
      hm.l2Len.erase hiface hindex hsole⟩

end Mirror

/-! ## Calls -/

/-- A call of the engine. -/
inductive Call
  | add (iface : String) (ip : Ipv4Addr) (dscpId : Option UInt8)
  | remove (iface : String)
deriving DecidableEq, Repr

def Call.prog (attached : Attachments) : Call → Syscalls (Except AnyhowError Unit × Attachments)
  | .add iface ip dscpId => addInterface attached iface ip dscpId
  | .remove iface => removeInterface attached iface

/-- The interface that a call attached a program to does not share its index with an attached
one.  The call inserts its address, under its index, as soon as the program is attached. -/
def NoShare (attached : Attachments) (es : List EngineEvent) : Prop :=
  ∀ key mac r, ⟨.arpInsert key mac, r⟩ ∈ es →
    ∀ iface a, attached.lookup iface = some a → a.ifindex ≠ key.ifindex

/-- What became of a call: its events and its result. -/
structure Record where
  call : Call
  events : List EngineEvent
  result : Except AnyhowError Unit

/-- **The histories of an engine**, the last call first, with the state that they lead to. -/
inductive History : List Record → Attachments → Host → Prop
  | new : History [] ∅ Host.loaded
  | call {log attached h c es res attached' h'} (hist : History log attached h)
      (hrun : Runs HostStep (Call.prog attached c) h es (res, attached') h')
      (hshare : NoShare attached es) : History (⟨c, es, res⟩ :: log) attached' h'

/-- A request about the interface with the index `i` and the address `ip`. -/
def About (i : UInt32) (ip : Ipv4Addr) : EngineOp → Prop
  | .arpInsert key _ => key = arpKeyFor i ip
  | .ifaceInsert _ j _ => j = i
  | _ => True

section Calls

variable {attached attached' : Attachments} {h h' : Host} {iface : String} {ip : Ipv4Addr}
  {dscpId : Option UInt8} {es : List EngineEvent} {res : Except AnyhowError Unit}

lemma reads_about {α : Type} {p : Syscalls α} {i : UInt32} (hp : Makes IsRead p) :
    Makes (About i ip) p := by
  refine hp.mono ?_
  rintro - ⟨path, rfl⟩
  trivial

lemma attachEgress_about (i : UInt32) (id : UInt8) :
    Makes (About i ip) (attachEgress iface i id) := by
  refine ⟨rfl, fun r => ?_⟩
  cases r with
  | error e => trivial
  | ok u =>
    refine Makes.bind (p := ifaceL2Len iface) (reads_about (ifaceL2Len_reads iface)) fun len => ?_
    cases len with
    | error e => trivial
    | ok len =>
      refine ⟨rfl, fun r => ?_⟩
      cases r with
      | error e => trivial
      | ok u =>
        refine ⟨trivial, fun _ => ⟨trivial, fun r => ?_⟩⟩
        cases r <;> trivial

lemma fillMaps_about (mac : Mac) (i : UInt32) (link : LinkId) :
    Makes (About i ip) (fillMaps attached iface ip dscpId mac i link) := by
  have hdetach : Makes (About i ip) (detachXdp link) := ⟨trivial, fun _ => trivial⟩
  refine ⟨rfl, fun r => ?_⟩
  cases r with
  | error e => exact hdetach.bind fun _ => trivial
  | ok u =>
    have hegress : Makes (About i ip) (attachEgressIf iface i dscpId) := by
      cases dscpId with
      | none => trivial
      | some id =>
        refine (attachEgress_about i id).bind fun res => ?_
        cases res <;> trivial
    show Makes (About i ip) ((attachEgressIf iface i dscpId).bind _)
    refine hegress.bind fun res => ?_
    cases res with
    | error e =>
      have hclear : Makes (About i ip) (clearArpEntry (arpKeyFor i ip)) :=
        ⟨trivial, fun _ => trivial⟩
      have hmaps : Makes (About i ip) (clearIfaceMaps i) :=
        ⟨trivial, fun _ => ⟨trivial, fun _ => trivial⟩⟩
      refine hclear.bind fun _ => hmaps.bind fun _ => hdetach.bind fun _ => ?_
      trivial
    | ok link' => trivial

/-- Nothing is kept under an index that no attached interface has. -/
lemma Mirrors.unused (hm : Mirrors attached h) (hd : Distinct attached) {key : ArpKey}
    (hfresh : ∀ j b, attached.lookup j = some b → b.ifindex ≠ key.ifindex) :
    key ∉ h.arpTable ∧ key.ifindex ∉ h.dscpId ∧ key.ifindex ∉ h.l2Len := by
  refine ⟨fun hmem => ?_, fun hmem => ?_, fun hmem => ?_⟩
  · obtain ⟨j, b, hj, hb⟩ := (hm.arp _).mp hmem
    exact hfresh j b hj (by rw [← hd.key hj, Option.some.inj hb])
  · obtain ⟨j, b, hj, hb⟩ := (hm.dscpId _).mp hmem
    obtain ⟨-, -, he⟩ := Option.map_eq_some_iff.mp hb
    exact hfresh j b hj he
  · obtain ⟨j, b, hj, hb⟩ := (hm.l2Len _).mp hmem
    obtain ⟨-, -, he⟩ := Option.map_eq_some_iff.mp hb
    exact hfresh j b hj he

/-- An add that ends with an error leaves things as they are at that point. -/
lemma failed_inv {e : AnyhowError}
    (hrun : Runs HostStep (.ret (.error e, attached)) h es (res, attached') h') :
    ∃ e, res = .error e ∧ attached' = attached ∧ h' = h := by
  obtain ⟨-, he, rfl⟩ := runs_ret_inv hrun
  obtain ⟨rfl, rfl⟩ := Prod.mk.inj he
  exact ⟨e, rfl, rfl, rfl⟩

/-- **An add** changes nothing and fails, or it attaches an interface that was not attached,
under an index of its own. -/
lemma addInterface_runs (hm : Mirrors attached h) (hd : Distinct attached)
    (hrun : Runs HostStep (addInterface attached iface ip dscpId) h es (res, attached') h')
    (hshare : NoShare attached es) :
    (∃ e, res = .error e ∧ attached' = attached ∧ h' = h) ∨
      ∃ a, res = .ok () ∧ iface ∉ attached ∧ attached' = attached.insert iface a ∧
        Added h h' iface a ∧ a.key.ifindex = a.ifindex ∧
        (∀ j b, attached.lookup j = some b → b.ifindex ≠ a.ifindex) ∧
        (∀ key mac r, ⟨.arpInsert key mac, r⟩ ∈ es → key = a.key) ∧
        ∀ map i v r, ⟨.ifaceInsert map i v, r⟩ ∈ es → i = a.ifindex := by
  rw [addInterface] at hrun
  split at hrun
  · exact Or.inl (failed_inv hrun)
  · rename_i hiface
    obtain ⟨es₁, mac, h₁, es₂, rfl, hmac, hrun⟩ := runs_bind_inv hrun
    obtain rfl := ((reads_spec (ifaceMac_reads iface)).runs hmac).2
    cases mac with
    | error e => exact Or.inl (failed_inv hrun)
    | ok mac =>
      obtain ⟨es₃, i, h₂, es₄, rfl, hindex, hrun⟩ := runs_bind_inv hrun
      obtain rfl := ((reads_spec (ifaceIfindex_reads iface)).runs hindex).2
      cases i with
      | error e => exact Or.inl (failed_inv hrun)
      | ok i =>
        obtain ⟨r, h₃, es₅, rfl, hattach, hrun⟩ := runs_call_inv hrun
        obtain ⟨hfail, hok⟩ := hostStep_attachXdp_inv hattach
        cases r with
        | error e =>
          obtain ⟨e', hres, hattached, rfl⟩ := failed_inv hrun
          exact Or.inl ⟨e', hres, hattached, hfail e rfl⟩
        | ok link =>
          obtain ⟨hfresh, rfl⟩ := hok link rfl
          -- the next event inserts the address, so the index is not shared
          obtain ⟨r, h₄, es₆, rfl, -, -⟩ := runs_call_inv hrun
          have hown := hshare (arpKeyFor i ip) mac r (by simp)
          obtain ⟨harp, hdscp, hl2⟩ := hm.unused hd hown
          obtain ⟨-, hfail, hok⟩ := (fillMaps_spec hfresh harp hdscp hl2).runs hrun
          have habout : ∀ e ∈ es₁ ++ (es₃ ++ ⟨.attachXdp iface, .ok link⟩ :: ⟨_, r⟩ :: es₆),
              About i ip e.op := by
            intro e he
            simp only [List.mem_append, List.mem_cons] at he
            rcases he with he | he | rfl | he
            · exact (reads_about (ifaceMac_reads iface)).events hmac e he
            · exact (reads_about (ifaceIfindex_reads iface)).events hindex e he
            · trivial
            · exact (fillMaps_about mac i link).events hrun e (List.mem_cons.mpr he)
          cases res with
          | error e => exact Or.inl ⟨e, rfl, hfail e rfl⟩
          | ok u =>
            obtain ⟨a, rfl, hkey, rfl, hadded⟩ := hok rfl
            refine Or.inr ⟨a, rfl, hiface, rfl, hadded, by rw [hkey]; rfl, hown, ?_, ?_⟩
            · intro key mac' r' he
              exact (show key = _ from habout _ he).trans hkey.symm
            · intro map j v r' he
              exact habout _ he

/-- **A remove** fails and changes nothing, or it undoes what was done for the interface. -/
lemma removeInterface_runs (hm : Mirrors attached h)
    (hrun : Runs HostStep (removeInterface attached iface) h es (res, attached') h') :
    (attached.lookup iface = none ∧ attached' = attached ∧ h' = h) ∨
      ∃ a, attached.lookup iface = some a ∧ res = .ok () ∧ attached' = attached.erase iface ∧
        h' = h.removed a := by
  cases ha : attached.lookup iface with
  | none =>
    rw [removeInterface, ha] at hrun
    obtain ⟨-, he, rfl⟩ := runs_ret_inv hrun
    exact Or.inl ⟨rfl, (Prod.mk.inj he).2, rfl⟩
  | some a =>
    have hlink : a.linkId ∈ h.xdp :=
      HashMap.mem_iff_lookup.mpr ⟨iface, (hm.xdp _ _).mpr ⟨a, ha, rfl⟩⟩
    obtain ⟨-, he, rfl⟩ := (removeInterface_spec ha hlink).runs hrun
    obtain ⟨rfl, rfl⟩ := Prod.mk.inj he
    exact Or.inr ⟨a, rfl, rfl, rfl, rfl⟩

/-- The step lemma: a call keeps the mirror. -/
lemma call_mirrors {c : Call} (hm : Mirrors attached h) (hd : Distinct attached)
    (hrun : Runs HostStep (c.prog attached) h es (res, attached') h')
    (hshare : NoShare attached es) : Mirrors attached' h' ∧ Distinct attached' := by
  cases c with
  | add iface ip dscpId =>
    rcases addInterface_runs hm hd hrun hshare with ⟨e, -, rfl, rfl⟩ |
      ⟨a, -, hiface, rfl, hadded, hkey, hfresh, -⟩
    · exact ⟨hm, hd⟩
    · exact ⟨hm.insert hiface hadded, hd.insert hkey hfresh⟩
  | remove iface =>
    rcases removeInterface_runs hm hrun with ⟨-, rfl, rfl⟩ | ⟨a, ha, -, rfl, rfl⟩
    · exact ⟨hm, hd⟩
    · exact ⟨hm.erase hd ha, hd.erase⟩

/-- The run lemma: after any sequence of calls links and maps mirror the attachments. -/
lemma History.mirrors {log : List Record} (hist : History log attached h) :
    Mirrors attached h ∧ Distinct attached := by
  induction hist with
  | new => exact ⟨mirrors_loaded, distinct_empty⟩
  | call _ hrun hshare ih => exact call_mirrors ih.1 ih.2 hrun hshare

/-- Only its own remove forgets an attached interface. -/
lemma call_remembers {c : Call} {a : Attached} (hm : Mirrors attached h) (hd : Distinct attached)
    (hrun : Runs HostStep (c.prog attached) h es (res, attached') h')
    (hshare : NoShare attached es) (hc : c ≠ .remove iface)
    (ha : attached.lookup iface = some a) : attached'.lookup iface = some a := by
  cases c with
  | add j ip dscpId =>
    rcases addInterface_runs hm hd hrun hshare with ⟨e, -, rfl, rfl⟩ | ⟨b, -, hj, rfl, -⟩
    · exact ha
    · exact HashMap.lookup_insert_of_notMem hj ha
  | remove j =>
    rcases removeInterface_runs hm hrun with ⟨-, rfl, rfl⟩ | ⟨b, -, -, rfl, rfl⟩
    · exact ha
    · have hne : iface ≠ j := fun he => hc (he ▸ rfl)
      exact (AList.lookup_erase_ne hne).trans ha

/-- What an add used is remembered up to the next remove of the interface. -/
lemma History.remembers {log mid old : List Record} {es₀ : List EngineEvent}
    (hist : History log attached h)
    (hlog : log = mid ++ ⟨.add iface ip dscpId, es₀, .ok ()⟩ :: old)
    (hmid : ∀ r ∈ mid, r.call ≠ .remove iface) :
    ∃ a, attached.lookup iface = some a ∧ a.key.ifindex = a.ifindex ∧
      (∀ key mac r, ⟨.arpInsert key mac, r⟩ ∈ es₀ → key = a.key) ∧
      ∀ map i v r, ⟨.ifaceInsert map i v, r⟩ ∈ es₀ → i = a.ifindex := by
  induction mid generalizing log attached h with
  | nil =>
    subst hlog
    cases hist with
    | call hist hrun hshare =>
      obtain ⟨hm, hd⟩ := hist.mirrors
      rcases addInterface_runs hm hd hrun hshare with ⟨e, he, -⟩ |
        ⟨a, -, -, rfl, -, hkey, -, harp, hmaps⟩
      · cases he
      · exact ⟨a, AList.lookup_insert _, hkey, harp, hmaps⟩
  | cons c mid ih =>
    subst hlog
    cases hist with
    | call hist hrun hshare =>
      obtain ⟨hm, hd⟩ := hist.mirrors
      obtain ⟨a, ha, hused⟩ := ih hist rfl fun r hr => hmid r (List.mem_cons_of_mem _ hr)
      exact ⟨a, call_remembers hm hd hrun hshare (hmid _ List.mem_cons_self) ha, hused⟩

end Calls

/-- **The engine's kernel maps always mirror its attachment table.**  After any sequence of
calls links and maps are those of the attached interfaces; an add that fails leaves everything
as it was; and a remove succeeds and leaves no entry that the add it undoes has inserted, which
names the index that this add used. -/
theorem maps_mirror_attachments {log : List Record} {attached : Attachments} {h : Host}
    (hist : History log attached h) :
    Mirrors attached h ∧
    (∀ iface ip dscpId es e attached' h',
      Runs HostStep (addInterface attached iface ip dscpId) h es (.error e, attached') h' →
      NoShare attached es → attached' = attached ∧ h' = h) ∧
    ∀ iface ip dscpId es₀ es res mid old,
      log = ⟨.remove iface, es, res⟩ :: (mid ++ ⟨.add iface ip dscpId, es₀, .ok ()⟩ :: old) →
      (∀ r ∈ mid, r.call ≠ .remove iface) →
      res = .ok () ∧ (∀ key mac r, ⟨.arpInsert key mac, r⟩ ∈ es₀ → key ∉ h.arpTable) ∧
        ∀ map i v r, ⟨.ifaceInsert map i v, r⟩ ∈ es₀ → i ∉ h.ifaceMap map := by
  obtain ⟨hm, hd⟩ := hist.mirrors
  refine ⟨hm, fun iface ip dscpId es e attached' h' hrun hshare => ?_, ?_⟩
  · rcases addInterface_runs hm hd hrun hshare with ⟨_, -, rfl, rfl⟩ | ⟨a, hok, -⟩
    · exact ⟨rfl, rfl⟩
    · cases hok
  · rintro iface ip dscpId es₀ es res mid old rfl hmid
    cases hist with
    | @call _ attached₀ _ _ _ _ _ _ hist hrun hshare =>
      obtain ⟨a, ha, hkey, harp, hmaps⟩ := hist.remembers rfl hmid
      obtain ⟨hm₀, hd₀⟩ := hist.mirrors
      rcases removeInterface_runs hm₀ hrun with ⟨hnone, -⟩ | ⟨b, hb, rfl, rfl, rfl⟩
      · rw [hnone] at ha
        cases ha
      · -- no interface that is left has the index of the removed one
        have hfresh (j : String) (b : Attached) (hj : (attached₀.erase iface).lookup j = some b) :
            b.ifindex ≠ a.key.ifindex := by
          obtain ⟨hne, hj⟩ := lookup_of_erase hj
          exact fun he => hne (hd₀.ifindex hj ha (he.trans hkey))
        obtain ⟨hnoarp, hnodscp, hnol2⟩ := hm.unused hd hfresh
        rw [hkey] at hnodscp hnol2
        refine ⟨rfl, fun key mac r he => harp key mac r he ▸ hnoarp, fun map i v r he => ?_⟩
        rw [hmaps map i v r he]
        cases map with
        | dscpId => exact hnodscp
        | l2Len => exact hnol2

/-! ## Calls that succeed -/

/-- The events of an add that succeeds, without an id. -/
def addEvents (iface : String) (ip : Ipv4Addr) (mac : Mac) (i : UInt32) (link : LinkId)
    (macText indexText : String) : List EngineEvent :=
  [⟨.readSys (addressPath iface), .ok macText⟩, ⟨.readSys (ifindexPath iface), .ok indexText⟩,
    ⟨.attachXdp iface, .ok link⟩, ⟨.arpInsert (arpKeyFor i ip) mac, .ok ()⟩]

/-- The events of a remove that succeeds, without an id. -/
def removeEvents (ip : Ipv4Addr) (i : UInt32) (link : LinkId) : List EngineEvent :=
  [⟨.arpRemove (arpKeyFor i ip), .ok ()⟩, ⟨.detachXdp link, .ok ()⟩]

/-- The host with one more interface, without an id. -/
def Host.with (h : Host) (iface : String) (ip : Ipv4Addr) (mac : Mac) (i : UInt32)
    (link : LinkId) : Host :=
  { h with xdp := h.xdp.insert link iface
           arpTable := h.arpTable.insert (arpKeyFor i ip) mac }

section Succeeds

variable {attached : Attachments} {h : Host} {iface : String} {ip : Ipv4Addr} {mac : Mac}
  {i : UInt32} {link : LinkId}

/-- When nothing fails, an interface that is not attached becomes so. -/
lemma addInterface_succeeds {macText indexText : String}
    (hiface : iface ∉ attached) (hmac : parseMac (trim macText) = .ok mac)
    (hindex : parseNumber "ifindex" (ifindexPath iface) indexText = .ok i)
    (hfresh : link ∉ h.xdp) :
    Runs HostStep (addInterface attached iface ip none) h
      (addEvents iface ip mac i link macText indexText)
      (.ok (), attached.insert iface ⟨link, none, arpKeyFor i ip, i⟩)
      (h.with iface ip mac i link) := by
  rw [addInterface, if_neg hiface, addEvents]
  refine Runs.call (HostStep.readSys h _ (.ok macText)) ?_
  simp only [ret_bind, pure_eq, hmac]
  refine Runs.call (HostStep.readSys h _ (.ok indexText)) ?_
  simp only [ret_bind, pure_eq, hindex]
  refine Runs.call (HostStep.attachXdp iface hfresh) ?_
  exact Runs.call (HostStep.arpInsert _ (arpKeyFor i ip) mac) (Runs.ret _ _)

/-- To remove an interface that was just attached leads back to where it began. -/
lemma removeInterface_succeeds (hiface : iface ∉ attached) (hfresh : link ∉ h.xdp)
    (harp : arpKeyFor i ip ∉ h.arpTable) :
    Runs HostStep
      (removeInterface (attached.insert iface ⟨link, none, arpKeyFor i ip, i⟩) iface)
      (h.with iface ip mac i link) (removeEvents ip i link) (.ok (), attached) h := by
  have hend : Runs HostStep
      (ret (.ok (), attached) : Syscalls (Except AnyhowError Unit × Attachments))
      { h with
        arpTable := (h.arpTable.insert (arpKeyFor i ip) mac).erase (arpKeyFor i ip)
        xdp := (h.xdp.insert link iface).erase link } [] (.ok (), attached) h := by
    rw [HashMap.erase_insert_of_notMem harp, HashMap.erase_insert_of_notMem hfresh]
    exact Runs.ret _ _
  rw [removeInterface, AList.lookup_insert, HashMap.erase_insert_of_notMem hiface]
  refine Runs.call (HostStep.arpRemove (AList.mem_insert _ |>.mpr (Or.inl rfl))) ?_
  exact Runs.call (HostStep.detachXdp (AList.mem_insert _ |>.mpr (Or.inl rfl))) hend

end Succeeds

/-- The record of an add of `iface` under the index `i`. -/
def addRecord (iface : String) (ip : Ipv4Addr) (mac : Mac) (i : UInt32) (link : LinkId)
    (macText indexText : String) : Record where
  call := .add iface ip none
  events := addEvents iface ip mac i link macText indexText
  result := .ok ()

/-- The record of its remove. -/
def removeRecord (iface : String) (ip : Ipv4Addr) (i : UInt32) (link : LinkId) : Record where
  call := .remove iface
  events := removeEvents ip i link
  result := .ok ()

section Records

variable {log : List Record} {attached : Attachments} {h : Host} {iface : String} {ip : Ipv4Addr}
  {mac : Mac} {i : UInt32} {link : LinkId} {macText indexText : String}

lemma History.added (hist : History log attached h) (hiface : iface ∉ attached)
    (hmac : parseMac (trim macText) = .ok mac)
    (hindex : parseNumber "ifindex" (ifindexPath iface) indexText = .ok i)
    (hfresh : link ∉ h.xdp) (hown : ∀ j a, attached.lookup j = some a → a.ifindex ≠ i) :
    History (addRecord iface ip mac i link macText indexText :: log)
      (attached.insert iface ⟨link, none, arpKeyFor i ip, i⟩) (h.with iface ip mac i link) := by
  refine History.call hist (c := .add iface ip none)
    (addInterface_succeeds hiface hmac hindex hfresh) ?_
  intro key mac' r he
  simp only [addEvents, List.mem_cons, List.not_mem_nil, or_false] at he
  rcases he with he | he | he | he <;> cases he
  exact hown

/-- An interface comes and goes. -/
lemma History.added_removed (hist : History log attached h) (hiface : iface ∉ attached)
    (hmac : parseMac (trim macText) = .ok mac)
    (hindex : parseNumber "ifindex" (ifindexPath iface) indexText = .ok i)
    (hfresh : link ∉ h.xdp) (hown : ∀ j a, attached.lookup j = some a → a.ifindex ≠ i)
    (harp : arpKeyFor i ip ∉ h.arpTable) :
    History (removeRecord iface ip i link :: addRecord iface ip mac i link macText indexText :: log)
      attached h := by
  refine History.call (hist.added hiface hmac hindex hfresh hown) (c := .remove iface)
    (removeInterface_succeeds hiface hfresh harp) ?_
  intro key mac' r he
  simp [removeEvents] at he

end Records

/-- The text of a MAC address under `/sys`. -/
def macText : String := "02:00:00:00:00:01\n"

/-- The engine with `eth1` attached. -/
def oneAttached : Attachments := AList.insert "eth1" ⟨1, none, arpKeyFor 2 ⟨10, 0, 0, 4⟩, 2⟩ ∅

/-- The system with `eth1` attached. -/
def oneHost : Host := Host.loaded.with "eth1" ⟨10, 0, 0, 4⟩ ⟨2, 0, 0, 0, 0, 1⟩ 2 1

/-- While `eth1` is attached, `eth0` is attached under the index 3 and removed, comes back under
the index 7 and is removed: no entry of this index is left. -/
theorem moved_interface_is_cleared :
    Mirrors oneAttached oneHost ∧ arpKeyFor 7 ⟨10, 0, 0, 5⟩ ∉ oneHost.arpTable := by
  have hmac : parseMac (trim macText) = .ok ⟨2, 0, 0, 0, 0, 1⟩ := by decide
  have hown (i : UInt32) (hi : i ≠ 2) (j : String) (a : Attached)
      (hj : oneAttached.lookup j = some a) : a.ifindex ≠ i := by
    rcases lookup_insert_cases hj with ⟨-, rfl⟩ | hj
    · exact hi.symm
    · cases hj
  have hone : History [addRecord "eth1" ⟨10, 0, 0, 4⟩ _ 2 1 macText "2\n"] oneAttached oneHost :=
    History.new.added (by simp) hmac rfl (by simp [Host.loaded]) (by simp)
  have hfirst : History (removeRecord "eth0" ⟨10, 0, 0, 5⟩ 3 2 ::
      addRecord "eth0" ⟨10, 0, 0, 5⟩ _ 3 2 macText "3\n" :: _) oneAttached oneHost :=
    hone.added_removed (by decide) hmac rfl (by decide) (hown 3 (by decide)) (by decide)
  have hist : History (removeRecord "eth0" ⟨10, 0, 0, 5⟩ 7 3 ::
      addRecord "eth0" ⟨10, 0, 0, 5⟩ _ 7 3 macText "7\n" :: _) oneAttached oneHost :=
    hfirst.added_removed (by decide) hmac rfl (by decide) (hown 7 (by decide)) (by decide)
  obtain ⟨hm, -, hclear⟩ := maps_mirror_attachments hist
  obtain ⟨-, harp, -⟩ := hclear _ _ _ _ _ _ [] _ rfl (by simp)
  exact ⟨hm, harp (arpKeyFor 7 ⟨10, 0, 0, 5⟩) ⟨2, 0, 0, 0, 0, 1⟩ (.ok ()) (by simp [addEvents])⟩

end Dumbarp.Engine
