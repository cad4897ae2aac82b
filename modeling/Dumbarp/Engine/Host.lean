/-
The system that the engine of `dumbarpd` works on, and what each of its functions does there.

`Host` is what the engine changes: the links of its two programs and the three maps they
read.  An `add_interface` that fails undoes what it did, and a `remove_interface` undoes what
was done for the interface.
-/
import Dumbarp.Ebpf.Stamp
import Dumbarp.Engine.Interface

namespace Dumbarp.Engine

open Interact Interact.Prog Ebpf

/-! ## The system -/

/-- The links of the XDP and of the egress program, each with its interface, and the maps. -/
structure Host extends Maps where
  xdp : HashMap LinkId String
  tc : HashMap LinkId String

/-- What `Dumbarp::new` finds: programs that are attached nowhere, and empty maps. -/
def Host.loaded : Host := { arpTable := ∅, dscpId := ∅, l2Len := ∅, xdp := ∅, tc := ∅ }

def Host.ifaceMap (h : Host) : IfaceMap → HashMap UInt32 UInt8
  | .dscpId => h.dscpId
  | .l2Len => h.l2Len

def Host.setIfaceMap (h : Host) (map : IfaceMap) (m : HashMap UInt32 UInt8) : Host :=
  match map with
  | .dscpId => { h with dscpId := m }
  | .l2Len => { h with l2Len := m }

/-- The behaviours of the system.  Reads, attaches and inserts may fail; a detach and the removal
of an entry fail only when there is nothing to detach or remove. -/
inductive HostStep : Sem Host EngineOp EngineOp.Res
  | readSys (h path r) : HostStep h (.readSys path) r h
  | attachXdp {h : Host} {link} (iface) (fresh : link ∉ h.xdp) :
      HostStep h (.attachXdp iface) (.ok link) { h with xdp := h.xdp.insert link iface }
  | attachXdpFails (h iface e) : HostStep h (.attachXdp iface) (.error e) h
  | detachXdp {h : Host} {link} (present : link ∈ h.xdp) :
      HostStep h (.detachXdp link) (.ok ()) { h with xdp := h.xdp.erase link }
  | detachXdpFails {h : Host} {link} (absent : link ∉ h.xdp) (e) :
      HostStep h (.detachXdp link) (.error e) h
  | arpInsert (h : Host) (key mac) :
      HostStep h (.arpInsert key mac) (.ok ()) { h with arpTable := h.arpTable.insert key mac }
  | arpInsertFails (h key mac e) : HostStep h (.arpInsert key mac) (.error e) h
  | arpRemove {h : Host} {key} (present : key ∈ h.arpTable) :
      HostStep h (.arpRemove key) (.ok ()) { h with arpTable := h.arpTable.erase key }
  | arpRemoveFails {h : Host} {key} (absent : key ∉ h.arpTable) (e) :
      HostStep h (.arpRemove key) (.error e) h
  | ifaceInsert (h : Host) (map i v) :
      HostStep h (.ifaceInsert map i v) (.ok ()) (h.setIfaceMap map ((h.ifaceMap map).insert i v))
  | ifaceInsertFails (h map i v e) : HostStep h (.ifaceInsert map i v) (.error e) h
  | ifaceRemove {h : Host} {map i} (present : i ∈ h.ifaceMap map) :
      HostStep h (.ifaceRemove map i) (.ok ()) (h.setIfaceMap map ((h.ifaceMap map).erase i))
  | ifaceRemoveFails {h : Host} {map i} (absent : i ∉ h.ifaceMap map) (e) :
      HostStep h (.ifaceRemove map i) (.error e) h
  | addClsact (h iface r) : HostStep h (.addClsact iface) r h
  | attachTc {h : Host} {link} (iface) (fresh : link ∉ h.tc) :
      HostStep h (.attachTc iface) (.ok link) { h with tc := h.tc.insert link iface }
  | attachTcFails (h iface e) : HostStep h (.attachTc iface) (.error e) h
  | detachTc {h : Host} {link} (present : link ∈ h.tc) :
      HostStep h (.detachTc link) (.ok ()) { h with tc := h.tc.erase link }
  | detachTcFails {h : Host} {link} (absent : link ∉ h.tc) (e) :
      HostStep h (.detachTc link) (.error e) h

section StepInversion

variable {h h' : Host}

lemma hostStep_attachXdp_inv {iface : String} {r : Except AnyhowError LinkId}
    (hs : HostStep h (.attachXdp iface) r h') :
    (∀ e, r = .error e → h' = h) ∧
      ∀ link, r = .ok link → link ∉ h.xdp ∧ h' = { h with xdp := h.xdp.insert link iface } := by
  cases hs with
  | attachXdpFails => exact ⟨fun _ _ => rfl, nofun⟩
  | attachXdp _ fresh =>
    refine ⟨nofun, fun link hl => ?_⟩
    obtain rfl := Except.ok.inj hl
    exact ⟨fresh, rfl⟩

lemma hostStep_attachTc_inv {iface : String} {r : Except AnyhowError LinkId}
    (hs : HostStep h (.attachTc iface) r h') :
    (∀ e, r = .error e → h' = h) ∧
      ∀ link, r = .ok link → link ∉ h.tc ∧ h' = { h with tc := h.tc.insert link iface } := by
  cases hs with
  | attachTcFails => exact ⟨fun _ _ => rfl, nofun⟩
  | attachTc _ fresh =>
    refine ⟨nofun, fun link hl => ?_⟩
    obtain rfl := Except.ok.inj hl
    exact ⟨fresh, rfl⟩

lemma hostStep_arpInsert_inv {key : ArpKey} {mac : Mac} {r : Except AnyhowError Unit}
    (hs : HostStep h (.arpInsert key mac) r h') :
    (∀ e, r = .error e → h' = h) ∧
      (r = .ok () → h' = { h with arpTable := h.arpTable.insert key mac }) := by
  cases hs with
  | arpInsertFails => exact ⟨fun _ _ => rfl, nofun⟩
  | arpInsert => exact ⟨nofun, fun _ => rfl⟩

lemma hostStep_ifaceInsert_inv {map : IfaceMap} {i : UInt32} {v : UInt8}
    {r : Except AnyhowError Unit} (hs : HostStep h (.ifaceInsert map i v) r h') :
    (∀ e, r = .error e → h' = h) ∧
      (r = .ok () → h' = h.setIfaceMap map ((h.ifaceMap map).insert i v)) := by
  cases hs with
  | ifaceInsertFails => exact ⟨fun _ _ => rfl, nofun⟩
  | ifaceInsert => exact ⟨nofun, fun _ => rfl⟩

/-- After a detach the link is gone, whatever the answer. -/
lemma hostStep_detachXdp_inv {link : LinkId} {r : Except AnyhowError Unit}
    (hs : HostStep h (.detachXdp link) r h') :
    h' = { h with xdp := h.xdp.erase link } ∧ (link ∈ h.xdp → r = .ok ()) := by
  cases hs with
  | detachXdp present => exact ⟨rfl, fun _ => rfl⟩
  | detachXdpFails absent => exact ⟨by rw [HashMap.erase_of_notMem absent], (absurd · absent)⟩

lemma hostStep_detachTc_inv {link : LinkId} {r : Except AnyhowError Unit}
    (hs : HostStep h (.detachTc link) r h') : h' = { h with tc := h.tc.erase link } := by
  cases hs with
  | detachTc present => rfl
  | detachTcFails absent => rw [HashMap.erase_of_notMem absent]

/-- After a removal the entry is gone, whatever the answer. -/
lemma hostStep_arpRemove_inv {key : ArpKey} {r : Except AnyhowError Unit}
    (hs : HostStep h (.arpRemove key) r h') :
    h' = { h with arpTable := h.arpTable.erase key } := by
  cases hs with
  | arpRemove present => rfl
  | arpRemoveFails absent => rw [HashMap.erase_of_notMem absent]

lemma hostStep_ifaceRemove_inv {map : IfaceMap} {i : UInt32} {r : Except AnyhowError Unit}
    (hs : HostStep h (.ifaceRemove map i) r h') :
    h' = h.setIfaceMap map ((h.ifaceMap map).erase i) := by
  cases hs with
  | ifaceRemove present => rfl
  | ifaceRemoveFails absent =>
    rw [HashMap.erase_of_notMem absent]
    cases map <;> rfl

end StepInversion

/-! ## What each function does to the system -/

section Effects

variable {h : Host}

lemma detachXdp_spec (link : LinkId) :
    Alone HostStep (detachXdp link) (fun _ h' => h' = { h with xdp := h.xdp.erase link }) h :=
  alone_call.mpr fun _ _ hs => alone_ret.mpr (hostStep_detachXdp_inv hs).1

lemma clearArpEntry_spec (key : ArpKey) :
    Alone HostStep (clearArpEntry key)
      (fun _ h' => h' = { h with arpTable := h.arpTable.erase key }) h :=
  alone_call.mpr fun _ _ hs => alone_ret.mpr (hostStep_arpRemove_inv hs)

lemma clearIfaceMaps_spec (i : UInt32) :
    Alone HostStep (clearIfaceMaps i)
      (fun _ h' => h' = { h with dscpId := h.dscpId.erase i, l2Len := h.l2Len.erase i }) h := by
  refine alone_call.mpr fun _ h₁ hs₁ => alone_call.mpr fun _ h₂ hs₂ => alone_ret.mpr ?_
  rw [hostStep_ifaceRemove_inv hs₂, hostStep_ifaceRemove_inv hs₁]
  rfl

/-- A request to read a file. -/
def IsRead (op : EngineOp) : Prop := ∃ path, op = .readSys path

/-- A program that only reads files leaves the system alone. -/
lemma reads_spec {α : Type} {p : Syscalls α} (hp : Makes IsRead p) :
    Alone HostStep p (fun _ h' => h' = h) h := by
  induction p with
  | ret a => exact alone_ret.mpr rfl
  | call op next ih =>
    obtain ⟨⟨path, rfl⟩, hnext⟩ := hp
    refine alone_call.mpr fun r h₁ hs => ?_
    cases hs
    exact ih r (hnext r)

lemma ifaceMac_reads (iface : String) : Makes IsRead (ifaceMac iface) := by
  refine ⟨⟨_, rfl⟩, fun r => ?_⟩
  cases r <;> trivial

lemma ifaceIfindex_reads (iface : String) : Makes IsRead (ifaceIfindex iface) := by
  refine ⟨⟨_, rfl⟩, fun r => ?_⟩
  cases r <;> trivial

lemma ifaceL2Len_reads (iface : String) : Makes IsRead (ifaceL2Len iface) := by
  refine ⟨⟨_, rfl⟩, fun r => ?_⟩
  cases r with
  | error e => trivial
  | ok s =>
    simp only [ret_bind]
    cases parseNumber "link type" (typePath iface) s <;> trivial

/-- The egress link `link` was made for `iface`, whose index is `i`. -/
structure EgressAdded (h h' : Host) (iface : String) (i : UInt32) (link : LinkId) : Prop where
  fresh : link ∉ h.tc
  host : ∃ id len, h' = { h with
    tc := h.tc.insert link iface, dscpId := h.dscpId.insert i id, l2Len := h.l2Len.insert i len }

/-- Without the entries of an interface the system is as it was before its id was stored. -/
lemma erase_dscpId {i : UInt32} {id : UInt8} (hdscp : i ∉ h.dscpId) (hl2 : i ∉ h.l2Len) :
    { h with dscpId := (h.dscpId.insert i id).erase i, l2Len := h.l2Len.erase i } = h := by
  rw [HashMap.erase_insert_of_notMem hdscp, HashMap.erase_of_notMem hl2]

/-- `attach_egress` makes a link and both entries, or fails and leaves entries of this
interface at most. -/
lemma attachEgress_spec {iface : String} {i : UInt32} {id : UInt8} (hdscp : i ∉ h.dscpId)
    (hl2 : i ∉ h.l2Len) :
    Alone HostStep (attachEgress iface i id) (fun res h' =>
      (∀ e, res = .error e →
        { h' with dscpId := h'.dscpId.erase i, l2Len := h'.l2Len.erase i } = h) ∧
      ∀ link, res = .ok link → EgressAdded h h' iface i link) h := by
  refine alone_call.mpr fun r h₁ hs₁ => ?_
  obtain ⟨hfail₁, hok₁⟩ := hostStep_ifaceInsert_inv hs₁
  cases r with
  | error e =>
    obtain rfl := hfail₁ e rfl
    refine alone_ret.mpr ⟨fun _ _ => ?_, nofun⟩
    rw [HashMap.erase_of_notMem hdscp, HashMap.erase_of_notMem hl2]
  | ok u =>
    obtain rfl := hok₁ rfl
    show Alone HostStep ((ifaceL2Len iface).bind _) _ _
    refine Safe.bind ((reads_spec (ifaceL2Len_reads iface)).mono ?_)
    rintro len h₂ - rfl
    cases len with
    | error e => exact alone_ret.mpr ⟨fun _ _ => erase_dscpId hdscp hl2, nofun⟩
    | ok len =>
      refine alone_call.mpr fun r h₃ hs₃ => ?_
      obtain ⟨hfail₃, hok₃⟩ := hostStep_ifaceInsert_inv hs₃
      cases r with
      | error e =>
        obtain rfl := hfail₃ e rfl
        exact alone_ret.mpr ⟨fun _ _ => erase_dscpId hdscp hl2, nofun⟩
      | ok u =>
        obtain rfl := hok₃ rfl
        refine alone_call.mpr fun r h₄ hs₄ => ?_
        cases hs₄
        refine alone_call.mpr fun r h₅ hs₅ => ?_
        obtain ⟨hfail₅, hok₅⟩ := hostStep_attachTc_inv hs₅
        cases r with
        | error e =>
          obtain rfl := hfail₅ e rfl
          refine alone_ret.mpr ⟨fun _ _ => ?_, nofun⟩
          show { h with dscpId := (h.dscpId.insert i id).erase i
                        l2Len := (h.l2Len.insert i len).erase i } = h
          rw [HashMap.erase_insert_of_notMem hdscp, HashMap.erase_insert_of_notMem hl2]
        | ok link =>
          obtain ⟨hfresh, rfl⟩ := hok₅ link rfl
          refine alone_ret.mpr ⟨nofun, fun link' hl => ?_⟩
          obtain rfl := Except.ok.inj hl
          exact ⟨hfresh, id, len, rfl⟩

/-- The interface `iface` was attached as `a`. -/
structure Added (h h' : Host) (iface : String) (a : Attached) : Prop where
  fresh : a.linkId ∉ h.xdp
  host : ∃ mac, ∃ h₁ : Host, h₁ = { h with
      xdp := h.xdp.insert a.linkId iface, arpTable := h.arpTable.insert a.key mac } ∧
    ((a.tcLinkId = none ∧ h' = h₁) ∨
      ∃ link, a.tcLinkId = some link ∧ EgressAdded h₁ h' iface a.ifindex link)

/-- Once the XDP program is attached, `add_interface` does the rest or undoes everything. -/
lemma fillMaps_spec {attached : Attachments} {iface : String} {ip : Ipv4Addr}
    {dscpId : Option UInt8} {mac : Mac} {i : UInt32} {link : LinkId} (hfresh : link ∉ h.xdp)
    (harp : arpKeyFor i ip ∉ h.arpTable) (hdscp : i ∉ h.dscpId) (hl2 : i ∉ h.l2Len) :
    Alone HostStep (fillMaps attached iface ip dscpId mac i link) (fun r h' =>
      (∀ e, r.1 = .error e → r.2 = attached ∧ h' = h) ∧
      (r.1 = .ok () → ∃ a, r.2 = attached.insert iface a ∧ a.key = arpKeyFor i ip ∧
        a.ifindex = i ∧ Added h h' iface a)) { h with xdp := h.xdp.insert link iface } := by
  refine alone_call.mpr fun r h₁ hs₁ => ?_
  obtain ⟨hfail₁, hok₁⟩ := hostStep_arpInsert_inv hs₁
  cases r with
  | error e =>
    obtain rfl := hfail₁ e rfl
    show Alone HostStep ((detachXdp link).bind _) _ _
    refine Safe.bind ((detachXdp_spec link).mono ?_)
    rintro - h₂ - rfl
    refine alone_ret.mpr ⟨fun _ _ => ⟨rfl, ?_⟩, nofun⟩
    show { h with xdp := (h.xdp.insert link iface).erase link } = h
    rw [HashMap.erase_insert_of_notMem hfresh]
  | ok u =>
    obtain rfl := hok₁ rfl
    set h₁ : Host := { h with
      xdp := h.xdp.insert link iface, arpTable := h.arpTable.insert (arpKeyFor i ip) mac }
    show Alone HostStep ((attachEgressIf iface i dscpId).bind _) _ h₁
    cases dscpId with
    | none =>
      refine alone_ret.mpr ⟨nofun, fun _ => ?_⟩
      exact ⟨_, rfl, rfl, rfl, hfresh, mac, h₁, rfl, Or.inl ⟨rfl, rfl⟩⟩
    | some id =>
      refine Safe.bind (Safe.bind ((attachEgress_spec (h := h₁) hdscp hl2).mono ?_))
      rintro res h₂ - ⟨hfail, hok⟩
      cases res with
      | error e =>
        refine alone_ret.mpr ?_
        show Alone HostStep ((clearArpEntry (arpKeyFor i ip)).bind _) _ h₂
        refine Safe.bind ((clearArpEntry_spec _).mono ?_)
        rintro - h₃ - rfl
        refine Safe.bind ((clearIfaceMaps_spec i).mono ?_)
        rintro - h₄ - rfl
        refine Safe.bind ((detachXdp_spec link).mono ?_)
        rintro - h₅ - rfl
        refine alone_ret.mpr ⟨fun _ _ => ⟨rfl, ?_⟩, nofun⟩
        -- with the entries of the interface gone, `h₂` is `h₁`, and the rest is undone
        have hback : { h₂ with dscpId := h₂.dscpId.erase i, l2Len := h₂.l2Len.erase i } = h₁ :=
          hfail e rfl
        show { ({ h₂ with dscpId := h₂.dscpId.erase i, l2Len := h₂.l2Len.erase i } : Host) with
          arpTable := h₂.arpTable.erase (arpKeyFor i ip), xdp := h₂.xdp.erase link } = h
        have harp₂ : h₂.arpTable = h.arpTable.insert (arpKeyFor i ip) mac :=
          congrArg (fun h : Host => h.arpTable) hback
        have hxdp₂ : h₂.xdp = h.xdp.insert link iface := congrArg Host.xdp hback
        rw [hback, harp₂, hxdp₂, HashMap.erase_insert_of_notMem harp,
          HashMap.erase_insert_of_notMem hfresh]
      | ok link' =>
        refine alone_ret.mpr (alone_ret.mpr ⟨nofun, fun _ => ?_⟩)
        exact ⟨_, rfl, rfl, rfl, hfresh, mac, h₁, rfl, Or.inr ⟨link', rfl, hok link' rfl⟩⟩

/-- The system once the egress link of an interface, if it has one, was undone. -/
def Host.egressRemoved (h : Host) (a : Attached) : Host :=
  match a.tcLinkId with
  | none => h
  | some link => { h with
      tc := h.tc.erase link
      dscpId := h.dscpId.erase a.ifindex
      l2Len := h.l2Len.erase a.ifindex }

/-- The system once an interface that was attached as `a` is not any more. -/
def Host.removed (h : Host) (a : Attached) : Host :=
  { h.egressRemoved a with
    arpTable := (h.egressRemoved a).arpTable.erase a.key
    xdp := (h.egressRemoved a).xdp.erase a.linkId }

lemma detachEgress_spec (a : Attached) :
    Alone HostStep (detachEgress a.tcLinkId a.ifindex) (fun _ h' => h' = h.egressRemoved a) h := by
  rw [Host.egressRemoved]
  cases a.tcLinkId with
  | none => exact alone_ret.mpr rfl
  | some link =>
    refine alone_call.mpr fun r h₁ hs => ?_
    obtain rfl := hostStep_detachTc_inv hs
    exact clearIfaceMaps_spec a.ifindex

lemma egressRemoved_xdp (h : Host) (a : Attached) : (h.egressRemoved a).xdp = h.xdp := by
  rw [Host.egressRemoved]
  cases a.tcLinkId <;> rfl

lemma egressRemoved_arpTable (h : Host) (a : Attached) :
    (h.egressRemoved a).arpTable = h.arpTable := by
  rw [Host.egressRemoved]
  cases a.tcLinkId <;> rfl

/-- `remove_interface` undoes all that was done for the interface. -/
lemma removeInterface_spec {attached : Attachments} {iface : String} {a : Attached}
    (ha : attached.lookup iface = some a) (hlink : a.linkId ∈ h.xdp) :
    Alone HostStep (removeInterface attached iface)
      (fun r h' => r = (.ok (), attached.erase iface) ∧ h' = h.removed a) h := by
  rw [removeInterface, ha]
  refine Safe.bind ((detachEgress_spec a).mono ?_)
  rintro - h₁ - rfl
  refine Safe.bind ((clearArpEntry_spec a.key).mono ?_)
  rintro - h₂ - rfl
  refine alone_call.mpr fun r h₃ hs => ?_
  obtain ⟨rfl, hok⟩ := hostStep_detachXdp_inv hs
  have hr : r = .ok () := hok (by
    show a.linkId ∈ (h.egressRemoved a).xdp
    rwa [egressRemoved_xdp])
  subst hr
  exact alone_ret.mpr ⟨rfl, rfl⟩

end Effects

/-! ## What each function returns

Whatever the system answers, the attachments change with the result alone. -/

/-- The engine has `iface` attached and answers there for `ip`. -/
def AnswersFor (attached : Attachments) (iface : String) (ip : Ipv4Addr) : Prop :=
  ∃ a, attached.lookup iface = some a ∧ a.key = arpKeyFor a.ifindex ip

/-- An interface answers for one address at most. -/
lemma AnswersFor.unique {attached : Attachments} {iface : String} {ip ip' : Ipv4Addr}
    (h : AnswersFor attached iface ip) (h' : AnswersFor attached iface ip') : ip = ip' := by
  obtain ⟨a, ha, hkey⟩ := h
  obtain ⟨a', ha', hkey'⟩ := h'
  obtain rfl : a = a' := Option.some.inj (ha.symm.trans ha')
  exact fromNeBytes_injective (ArpKey.mk.inj (hkey.symm.trans hkey')).2

/-- The attachments that an `add_interface` may leave beside its result. -/
def AddResult (attached : Attachments) (iface : String) (ip : Ipv4Addr) :
    Except AnyhowError Unit × Attachments → Prop
  | (.error _, attached') => attached' = attached
  | (.ok _, attached') =>
    ∃ a, attached' = attached.insert iface a ∧ a.key = arpKeyFor a.ifindex ip

lemma fillMaps_ends {attached : Attachments} {iface : String} {ip : Ipv4Addr}
    {dscpId : Option UInt8} {mac : Mac} {i : UInt32} {link : LinkId} :
    Ends (AddResult attached iface ip) (fillMaps attached iface ip dscpId mac i link) := by
  intro r
  cases r with
  | error e =>
    show Ends _ ((detachXdp link).bind _)
    exact ends_bind fun _ => rfl
  | ok u =>
    show Ends _ ((attachEgressIf iface i dscpId).bind _)
    refine ends_bind fun r => ?_
    cases r with
    | error e =>
      show Ends _ ((clearArpEntry (arpKeyFor i ip)).bind fun _ => (clearIfaceMaps i).bind fun _ =>
        (detachXdp link).bind _)
      exact ends_bind fun _ => ends_bind fun _ => ends_bind fun _ => rfl
    | ok tcLinkId => exact ⟨_, rfl, rfl⟩

/-- An `add_interface` leaves the attachments alone or adds the interface with its address. -/
lemma addInterface_ends {attached : Attachments} {iface : String} {ip : Ipv4Addr}
    {dscpId : Option UInt8} :
    Ends (AddResult attached iface ip) (addInterface attached iface ip dscpId) := by
  rw [addInterface]
  split
  · exact rfl
  · refine ends_bind fun r => ?_
    cases r with
    | error e => exact rfl
    | ok mac =>
      refine ends_bind fun r => ?_
      cases r with
      | error e => exact rfl
      | ok i =>
        intro r
        cases r with
        | error e => exact rfl
        | ok link => exact fillMaps_ends

/-- A `remove_interface` forgets the interface. -/
lemma removeInterface_ends {attached : Attachments} {iface : String} :
    Ends (fun r => r.2 = attached.erase iface) (removeInterface attached iface) := by
  rw [removeInterface]
  cases ha : attached.lookup iface with
  | none =>
    have hiface : iface ∉ attached := by
      rw [← AList.lookup_eq_none, ha]
    exact (HashMap.erase_of_notMem hiface).symm
  | some a =>
    refine ends_bind fun _ => ends_bind fun _ r => ?_
    cases r <;> exact rfl

/-! ## What can happen -/

lemma hostStep_total (h : Host) (op : EngineOp) : ∃ r h', HostStep h op r h' := by
  cases op with
  | readSys path => exact ⟨_, _, HostStep.readSys h path (.error [])⟩
  | attachXdp iface => exact ⟨_, _, HostStep.attachXdpFails h iface []⟩
  | detachXdp link =>
    by_cases hl : link ∈ h.xdp
    · exact ⟨_, _, HostStep.detachXdp hl⟩
    · exact ⟨_, _, HostStep.detachXdpFails hl []⟩
  | arpInsert key mac => exact ⟨_, _, HostStep.arpInsert h key mac⟩
  | arpRemove key =>
    by_cases hk : key ∈ h.arpTable
    · exact ⟨_, _, HostStep.arpRemove hk⟩
    · exact ⟨_, _, HostStep.arpRemoveFails hk []⟩
  | ifaceInsert map i v => exact ⟨_, _, HostStep.ifaceInsert h map i v⟩
  | ifaceRemove map i =>
    by_cases hi : i ∈ h.ifaceMap map
    · exact ⟨_, _, HostStep.ifaceRemove hi⟩
    · exact ⟨_, _, HostStep.ifaceRemoveFails hi []⟩
  | addClsact iface => exact ⟨_, _, HostStep.addClsact h iface (.ok ())⟩
  | attachTc iface => exact ⟨_, _, HostStep.attachTcFails h iface []⟩
  | detachTc link =>
    by_cases hl : link ∈ h.tc
    · exact ⟨_, _, HostStep.detachTc hl⟩
    · exact ⟨_, _, HostStep.detachTcFails hl []⟩

lemma attachEgressIf_can (h : Host) (iface : String) (i : UInt32) (dscpId : Option UInt8) :
    Can HostStep (attachEgressIf iface i dscpId) h fun r _ => ∃ link, r = .ok link := by
  cases dscpId with
  | none => exact can_ret ⟨none, rfl⟩
  | some id =>
    refine Can.bind (Can.mono (Q := fun r _ => ∃ link, r = .ok link) ?_ ?_)
    · refine can_call (HostStep.ifaceInsert h .dscpId i id) ?_
      refine can_call (HostStep.readSys _ (typePath iface) (.ok "1\n")) ?_
      refine can_call (HostStep.ifaceInsert _ .l2Len i ethHlen) ?_
      refine can_call (HostStep.addClsact _ iface (.ok ())) ?_
      obtain ⟨link, hfresh⟩ := HashMap.exists_notMem h.tc
      exact can_call (HostStep.attachTc iface hfresh) (can_ret ⟨link, rfl⟩)
    · rintro r h' ⟨link, rfl⟩
      exact can_ret ⟨some link, rfl⟩

/-- An interface that is not attached can be added. -/
lemma addInterface_can {attached : Attachments} {iface : String} (hiface : iface ∉ attached)
    (h : Host) (ip : Ipv4Addr) (dscpId : Option UInt8) :
    Can HostStep (addInterface attached iface ip dscpId) h fun r _ => r.1 = .ok () := by
  have hmac : parseMac (trim "02:00:00:00:00:01\n") = .ok ⟨2, 0, 0, 0, 0, 1⟩ := by decide
  have hindex : parseNumber "ifindex" (ifindexPath iface) "3\n" = .ok 3 := rfl
  obtain ⟨link, hfresh⟩ := HashMap.exists_notMem h.xdp
  rw [addInterface, if_neg hiface]
  refine can_call (HostStep.readSys h _ (.ok "02:00:00:00:00:01\n")) ?_
  simp only [ret_bind, pure_eq, hmac]
  refine can_call (HostStep.readSys h _ (.ok "3\n")) ?_
  simp only [ret_bind, pure_eq, hindex]
  refine can_call (HostStep.attachXdp iface hfresh) ?_
  refine can_call (HostStep.arpInsert _ (arpKeyFor 3 ip) ⟨2, 0, 0, 0, 0, 1⟩) ?_
  show Can HostStep ((attachEgressIf iface 3 dscpId).bind _) _ _
  refine Can.bind ((attachEgressIf_can _ iface 3 dscpId).mono ?_)
  rintro r h' ⟨tcLinkId, rfl⟩
  exact can_ret rfl

end Dumbarp.Engine
