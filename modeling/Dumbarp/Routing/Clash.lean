/-
Tables that two sources share.

The reconciler keys a pass by table, so a spec is kept only while no other spec has its table.
The table of a source is the address itself, but for the four addresses whose number the
kernel reserves: these are moved by `0x1_0000`, onto the number of another address.  Exactly
these four pairs of addresses share a table.
-/
import Dumbarp.Api.Wire
import Dumbarp.Routing.FixedPoint
import Dumbarp.Routing.Foreign

namespace Dumbarp.Routing

open Interact Interact.Prog

/-- The number of `ip` is reserved, and `ip` is moved onto the table of `ip'`. -/
def Displaces (ip ip' : Ipv4Addr) : Prop := Reserved ip.toU32 ∧ ip'.toU32 = ip.toU32 + 0x1_0000

instance (ip ip' : Ipv4Addr) : Decidable (Displaces ip ip') := by
  unfold Displaces Reserved
  infer_instance

lemma tableIdFor_of_reserved {ip : Ipv4Addr} (h : Reserved ip.toU32) :
    tableIdFor ip = ip.toU32 + 0x1_0000 := if_pos h

lemma tableIdFor_of_not_reserved {ip : Ipv4Addr} (h : ¬ Reserved ip.toU32) :
    tableIdFor ip = ip.toU32 := if_neg h

/-- An address that another is moved onto is not moved itself. -/
lemma Displaces.not_reserved {ip ip' : Ipv4Addr} (h : Displaces ip ip') :
    ¬ Reserved ip'.toU32 := by
  obtain ⟨hr, heq⟩ := h
  rw [heq, ← tableIdFor_of_reserved hr]
  exact tableIdFor_not_reserved ip

lemma Displaces.tableIdFor_eq {ip ip' : Ipv4Addr} (h : Displaces ip ip') :
    tableIdFor ip = tableIdFor ip' := by
  rw [tableIdFor_of_reserved h.1, tableIdFor_of_not_reserved h.not_reserved, h.2]

lemma Displaces.ne {ip ip' : Ipv4Addr} (h : Displaces ip ip') : ip ≠ ip' := fun heq =>
  h.not_reserved (heq ▸ h.1)

/-- **Two addresses share a table** exactly when one is moved onto the other. -/
theorem tableIdFor_eq_iff {ip ip' : Ipv4Addr} (hne : ip ≠ ip') :
    tableIdFor ip = tableIdFor ip' ↔ Displaces ip ip' ∨ Displaces ip' ip := by
  constructor
  · intro h
    by_cases hr : Reserved ip.toU32 <;> by_cases hr' : Reserved ip'.toU32
    · -- both are moved by the same distance
      rw [tableIdFor_of_reserved hr, tableIdFor_of_reserved hr'] at h
      exact absurd (Ipv4Addr.toU32_injective ((UInt32.add_left_inj _).mp h)) hne
    · rw [tableIdFor_of_reserved hr, tableIdFor_of_not_reserved hr'] at h
      exact Or.inl ⟨hr, h.symm⟩
    · rw [tableIdFor_of_not_reserved hr, tableIdFor_of_reserved hr'] at h
      exact Or.inr ⟨hr', h⟩
    · rw [tableIdFor_of_not_reserved hr, tableIdFor_of_not_reserved hr'] at h
      exact absurd (Ipv4Addr.toU32_injective h) hne
  · rintro (h | h)
    · exact h.tableIdFor_eq
    · exact h.tableIdFor_eq.symm

/-! ## What the first loop keeps -/

/-- Each spec of the list has a table to itself, which the kernel does not reserve. -/
structure KeepsEach (desired : List RouteSpec) (resolved : HashMap UInt32 ResolvedSpec) : Prop where
  kept : ∀ spec ∈ desired, ∃ idx,
    resolved.lookup (tableIdFor spec.src) = some (spec.withIndex idx)
  apart : ∀ spec ∈ desired, ∀ spec' ∈ desired, spec.src ≠ spec'.src →
    tableIdFor spec.src ≠ tableIdFor spec'.src
  free : ∀ spec ∈ desired, ¬ Reserved (tableIdFor spec.src)

@[simp] lemma RouteSpec.withIndex_src (spec : RouteSpec) (idx : UInt32) :
    (spec.withIndex idx).src = spec.src := rfl

/-- Where no two specs are for one table, each is the last for its own. -/
lemma lastFor_of_nodup {specs : List ResolvedSpec}
    (hnodup : (specs.map fun w => tableIdFor w.src).Nodup) {w : ResolvedSpec} (hw : w ∈ specs) :
    lastFor (tableIdFor w.src) specs = some w := by
  induction specs with
  | nil => cases hw
  | cons v specs ih =>
    rw [List.map_cons, List.nodup_cons] at hnodup
    rw [lastFor_cons]
    rcases List.mem_cons.mp hw with rfl | hw
    · -- no later spec is for this table
      have hnone : lastFor (tableIdFor w.src) specs = none := by
        rw [lastFor, List.getLast?_eq_none_iff, List.filter_eq_nil_iff]
        intro v hv hvt
        exact hnodup.1 (List.mem_map.mpr ⟨v, hv, by simpa using hvt⟩)
      rw [hnone]
      simp
    · rw [ih hnodup.2 hw]
      rfl

/-- Where every lookup finds an index, no spec is dropped. -/
lemma resolvedSpecs_complete {changes : Behaviour} {k k' : Kernel} {es : List NetlinkEvent}
    (specs : List RouteSpec) {cache : HashMap String UInt32}
    {resolved m : HashMap UInt32 ResolvedSpec}
    (h : Runs (KernelStep changes) (resolve specs cache resolved) k es m k')
    (hes : ∀ e ∈ es, (linkOf e).isSome) :
    (resolvedSpecs specs cache es).map ResolvedSpec.src = specs.map RouteSpec.src ∧
      ∀ spec ∈ specs, ∃ idx, spec.withIndex idx ∈ resolvedSpecs specs cache es := by
  induction specs generalizing cache resolved es k with
  | nil => simp [resolvedSpecs]
  | cons spec specs ih =>
    have hcons {L : List ResolvedSpec} (idx : UInt32)
        (hL : L.map ResolvedSpec.src = specs.map RouteSpec.src ∧
          ∀ s ∈ specs, ∃ i, s.withIndex i ∈ L) :
        (spec.withIndex idx :: L).map ResolvedSpec.src = (spec :: specs).map RouteSpec.src ∧
          ∀ s ∈ spec :: specs, ∃ i, s.withIndex i ∈ spec.withIndex idx :: L := by
      refine ⟨by rw [List.map_cons, hL.1]; rfl, List.forall_mem_cons.mpr ⟨?_, fun s hs => ?_⟩⟩
      · exact ⟨idx, List.mem_cons_self⟩
      · obtain ⟨i, hi⟩ := hL.2 s hs
        exact ⟨i, List.mem_cons_of_mem _ hi⟩
    rw [resolve] at h
    cases hlookup : cache.lookup spec.iface with
    | some idx =>
      rw [hlookup] at h
      rw [resolvedSpecs_cached hlookup]
      exact hcons idx (ih h hes)
    | none =>
      rw [hlookup] at h
      obtain ⟨r, k₁, es₁, rfl, -, hrest⟩ := runs_call_inv h
      obtain ⟨hhead, hes₁⟩ := List.forall_mem_cons.mp hes
      cases r with
      | error e => exact absurd hhead (by simp [linkOf])
      | ok found =>
        cases found with
        | none => exact absurd hhead (by simp [linkOf])
        | some idx =>
          rw [resolvedSpecs_found hlookup rfl]
          exact hcons idx (ih hrest hes₁)

/-- **A pass keeps every spec exactly when no source is moved onto another.**  Let the sources
of a list be different and every interface of it resolve.  Then the map of the first loop has
each spec under a table of its own if and only if the list does not have both addresses of one
of the four pairs. -/
theorem resolved_keeps_iff {changes : Behaviour} {k k' : Kernel} {es : List NetlinkEvent}
    {desired : List RouteSpec} {resolved : HashMap UInt32 ResolvedSpec}
    (hsrc : (desired.map RouteSpec.src).Nodup)
    (hrun : Runs (KernelStep changes) (resolve desired ∅ ∅) k es resolved k')
    (hes : ∀ e ∈ es, (linkOf e).isSome) :
    KeepsEach desired resolved ↔
      ∀ spec ∈ desired, ∀ spec' ∈ desired, ¬ Displaces spec.src spec'.src := by
  constructor
  · intro h spec hspec spec' hspec' hd
    exact h.apart spec hspec spec' hspec' hd.ne hd.tableIdFor_eq
  · intro h
    have hapart : ∀ spec ∈ desired, ∀ spec' ∈ desired, spec.src ≠ spec'.src →
        tableIdFor spec.src ≠ tableIdFor spec'.src := by
      intro spec hspec spec' hspec' hne heq
      rcases (tableIdFor_eq_iff hne).mp heq with hd | hd
      · exact h spec hspec spec' hspec' hd
      · exact h spec' hspec' spec hspec hd
    refine ⟨fun spec hspec => ?_, hapart, fun spec _ => tableIdFor_not_reserved spec.src⟩
    obtain ⟨hsrcs, hall⟩ := resolvedSpecs_complete desired hrun hes
    -- the tables of the resolved specs are those of the list, and these are all different
    have htables : ((resolvedSpecs desired ∅ es).map fun w => tableIdFor w.src).Nodup := by
      have hcomp : ((resolvedSpecs desired ∅ es).map fun w => tableIdFor w.src) =
          (desired.map RouteSpec.src).map tableIdFor := by
        rw [← hsrcs, List.map_map]
        rfl
      rw [hcomp]
      refine hsrc.map_on fun a ha b hb heq => ?_
      obtain ⟨s, hs, rfl⟩ := List.mem_map.mp ha
      obtain ⟨s', hs', rfl⟩ := List.mem_map.mp hb
      by_contra hne
      exact hapart s hs s' hs' hne heq
    obtain ⟨idx, hidx⟩ := hall spec hspec
    refine ⟨idx, ?_⟩
    have hlookup := (resolve_runs desired hrun).2 [] (tableIdFor spec.src)
    have hlast := lastFor_of_nodup htables hidx
    rw [RouteSpec.withIndex_src] at hlast
    rw [hlookup, List.append_nil, hlast]
    rfl

/-! ## Two leases of one table -/

/-- The wishes for two leases, of which the first is moved onto the table of the second. -/
def clashing : List RouteSpec :=
  [ { markedSpec with src := ⟨0, 0, 0, 253⟩ }, { markedSpec with src := ⟨0, 1, 0, 253⟩ } ]

/-- The first loop of a pass, with every interface at index 2. -/
def resolveAll (desired : List RouteSpec) :
    List NetlinkEvent × HashMap UInt32 ResolvedSpec × Kernel :=
  (resolve desired ∅ ∅).exec (Kernel.answer fun _ => some 2) {}

lemma resolveAll_runs (desired : List RouteSpec) :
    Runs (KernelStep Reliable) (resolve desired ∅ ∅) {} (resolveAll desired).1
      (resolveAll desired).2.1 (resolveAll desired).2.2 :=
  exec_runs (answer_step _) _ _

/-- Two addresses that the APIs accept have one table, and the lease of the first is lost. -/
theorem clashing_lease_is_lost :
    (∀ label, Api.parseIps (clashing.map fun spec => spec.src.toString) label =
      .ok (clashing.map RouteSpec.src)) ∧
    (clashing.map RouteSpec.src).Nodup ∧
    tableIdFor ⟨0, 0, 0, 253⟩ = tableIdFor ⟨0, 1, 0, 253⟩ ∧
    Runs (KernelStep Reliable) (resolve clashing ∅ ∅) {} (resolveAll clashing).1
      (resolveAll clashing).2.1 (resolveAll clashing).2.2 ∧
    (∀ e ∈ (resolveAll clashing).1, (linkOf e).isSome) ∧
    ∀ t w, (resolveAll clashing).2.1.lookup t = some w → w.src ≠ ⟨0, 0, 0, 253⟩ := by
  refine ⟨fun label => ?_, by decide, by decide, resolveAll_runs _, by decide, fun t w hw => ?_⟩
  · have h := Api.parseIps_toString (clashing.map RouteSpec.src) label
    rwa [List.map_map] at h
  · have hentries : ∀ e ∈ (resolveAll clashing).2.1.entries, e.2.src ≠ ⟨0, 0, 0, 253⟩ := by decide
    exact hentries ⟨t, w⟩ (AList.mem_lookup_iff.mp hw)

/-- The wishes for the first of them and one that it is not moved onto. -/
def apartLeases : List RouteSpec := [ { markedSpec with src := ⟨0, 0, 0, 253⟩ }, markedSpec ]

/-- Beside such a lease the moved one is kept. -/
theorem leases_apart_are_kept :
    KeepsEach apartLeases (resolveAll apartLeases).2.1 ∧
      (resolveAll apartLeases).2.1.lookup (tableIdFor ⟨0, 0, 0, 253⟩) =
        some ⟨⟨0, 0, 0, 253⟩, ⟨10, 0, 0, 1⟩, 2, some 2⟩ ∧
      (resolveAll apartLeases).2.1.lookup (tableIdFor markedSpec.src) =
        some ⟨markedSpec.src, ⟨10, 0, 0, 1⟩, 2, some 2⟩ :=
  ⟨(resolved_keeps_iff (by decide) (resolveAll_runs _) (by decide)).mpr (by decide), by decide,
    by decide⟩

end Dumbarp.Routing
