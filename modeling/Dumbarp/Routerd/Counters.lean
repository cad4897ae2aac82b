/-
The datapath of a router under way (`dumbarp-routerd-ebpf/src/main.rs` and `Datapath` in
`dumbarp-routerd/src/datapath.rs`).

Packets arrive on any CPU while pass after pass syncs the map of the ids, and every operation on
the map may fail.  Each packet bumps one counter of its CPU, so the sums that a pass reports count
the packets by what became of them.  A sync that fails half way may leave ids of an earlier pass
in the map, but an id only ever stands for itself: a packet that gets a mark gets its own DSCP, and
some pass has given that as an id to a daemon.

Runs are listed newest event first.
-/
import Dumbarp.Routerd.Life
import Mathlib.Algebra.BigOperators.Fin
import Mathlib.Algebra.Order.BigOperators.Group.Finset

namespace Dumbarp.Routerd

open Routing

variable {ε : Type} {cpus : ℕ}

/-! ## The code -/

/-- `COUNTERS`: the slots of each CPU. -/
abbrev PerCpuArray (cpus : ℕ) : Type := Fin cpus → CounterSlot → UInt64

/-- `Counters`. -/
structure Counters where
  tagged : UInt64 := 0
  untagged : UInt64 := 0
  skipped : UInt64 := 0
deriving DecidableEq, Repr

/-- `bump`, on the CPU that runs the classifier. -/
def bump (cpu : Fin cpus) (slot : CounterSlot) (array : PerCpuArray cpus) : PerCpuArray cpus :=
  fun i s => if i = cpu ∧ s = slot then array i s + 1 else array i s

/-- The lookups of `Datapath::counters`: the values of each CPU in a slot, or nothing. -/
abbrev SlotLookup (cpus : ℕ) : Type := CounterSlot → Option (Fin cpus → UInt64)

/-- `per_cpu.iter().sum()`. -/
def sumCpus (perCpu : Fin cpus → UInt64) : UInt64 := (List.ofFn perCpu).sum

/-- `Datapath::counters`: one lookup after the other, up to the first that fails. -/
def counters (get : SlotLookup cpus) : Option Counters := do
  let tagged ← get .tagged
  let untagged ← get .untagged
  let skipped ← get .skipped
  return ⟨sumCpus tagged, sumCpus untagged, sumCpus skipped⟩

/-- What `sync_datapath` reports: zeros, if the counters cannot be read. -/
def reported (get : SlotLookup cpus) : Counters := (counters get).getD {}

/-- The program and its classifier. -/
structure Plane (cpus : ℕ) where
  router : RouterState
  array : PerCpuArray cpus

/-- What happens to them. -/
inductive PlaneEvent (ε : Type) (cpus : ℕ)
  | packet (cpu : Fin cpus) (skb : Skb)
  | pass (x : Outside ε)

/-- The plane after a run from the start of the program. -/
def afterEvents (cfg : Config) : List (PlaneEvent ε cpus) → Plane cpus
  | [] => ⟨⟨∅, ∅, ∅, ∅⟩, fun _ _ => 0⟩
  | .packet cpu skb :: older =>
    let plane := afterEvents cfg older
    { plane with array := bump cpu (steer plane.router.datapath skb).counter plane.array }
  | .pass x :: older =>
    let plane := afterEvents cfg older
    { plane with router := (reconcileOnce cfg x plane.router).state }

/-! ## What the counters count -/

/-- A packet of a run: where it arrived, and with what the classifier found and left. -/
structure Passed (cpus : ℕ) where
  cpu : Fin cpus
  skb : Skb
  mark : Option UInt32

/-- The packets of a run. -/
def passed (cfg : Config) : List (PlaneEvent ε cpus) → List (Passed cpus)
  | [] => []
  | .packet cpu skb :: older =>
    ⟨cpu, skb, (steer (afterEvents cfg older).router.datapath skb).mark⟩ :: passed cfg older
  | .pass _ :: older => passed cfg older

/-- What became of a packet: it got a mark, it had a DSCP to look at, or neither. -/
def Passed.slot (p : Passed cpus) : CounterSlot :=
  if p.mark.isSome then .tagged else if (dscpOf p.skb).isSome then .untagged else .skipped

section Slots

variable (p : Passed cpus)

lemma decide_slot_tagged : decide (p.slot = .tagged) = p.mark.isSome := by
  cases hm : p.mark <;> cases hd : dscpOf p.skb <;> simp [Passed.slot, hm, hd]

lemma decide_slot_untagged :
    decide (p.slot = .untagged) = (p.mark.isNone && (dscpOf p.skb).isSome) := by
  cases hm : p.mark <;> cases hd : dscpOf p.skb <;> simp [Passed.slot, hm, hd]

lemma decide_slot_skipped :
    decide (p.slot = .skipped) = (p.mark.isNone && (dscpOf p.skb).isNone) := by
  cases hm : p.mark <;> cases hd : dscpOf p.skb <;> simp [Passed.slot, hm, hd]

end Slots

/-- The lookups were made while the run grew from `first` to `last`, and saw each CPU at a moment of
its own. -/
def ReadDuring (cfg : Config) (first last : List (PlaneEvent ε cpus)) (get : SlotLookup cpus) :
    Prop :=
  ∀ slot perCpu, get slot = some perCpu → ∀ cpu, ∃ seen, first <:+ seen ∧ seen <:+ last ∧
    perCpu cpu = (afterEvents cfg seen).array cpu slot

section Counting

/-- The classifier bumps the slot of what becomes of the packet. -/
lemma steer_counter (dscpIds : DscpIds) (cpu : Fin cpus) (skb : Skb) :
    (steer dscpIds skb).counter = (⟨cpu, skb, (steer dscpIds skb).mark⟩ : Passed cpus).slot := by
  by_cases hp : skb.protocol = etherTypeIpv4
  · cases hl : loadNetU8 skb ipv4TosOffset with
    | none => simp [steer, Passed.slot, dscpOf, hp, hl]
    | some tos =>
      by_cases hz : tos >>> 2 = 0
      · simp [steer, Passed.slot, dscpOf, hp, hl, hz]
      · cases hm : dscpIds.lookup (tos >>> 2) with
        | none => simp [steer, Passed.slot, dscpOf, hp, hl, hz, hm]
        | some mark => simp [steer, Passed.slot, hp, hl, hz, hm]
  · simp [steer, Passed.slot, dscpOf, hp]

/-- A slot of a CPU counts its packets, as far as 64 bits go. -/
lemma array_eq (cfg : Config) (cpu : Fin cpus) (slot : CounterSlot) :
    ∀ run : List (PlaneEvent ε cpus), (afterEvents cfg run).array cpu slot =
      UInt64.ofNat ((passed cfg run).countP fun p => p.cpu = cpu ∧ p.slot = slot)
  | [] => rfl
  | .pass x :: older => array_eq cfg cpu slot older
  | .packet cpu' skb :: older => by
    have ih := array_eq cfg cpu slot older
    simp only [afterEvents, passed, bump, List.countP_cons, decide_eq_true_eq, ih,
      steer_counter _ cpu']
    by_cases hhit : cpu = cpu' ∧
        slot = (⟨cpu', skb, (steer (afterEvents cfg older).router.datapath skb).mark⟩ :
          Passed cpus).slot
    · rw [if_pos hhit, if_pos ⟨hhit.1.symm, hhit.2.symm⟩, UInt64.ofNat_add]
      rfl
    · rw [if_neg hhit, if_neg fun h => hhit ⟨h.1.symm, h.2.symm⟩, Nat.add_zero]

lemma sum_ofNat (ns : List ℕ) : (ns.map UInt64.ofNat).sum = UInt64.ofNat ns.sum := by
  induction ns with
  | nil => rfl
  | cons n ns ih => rw [List.map_cons, List.sum_cons, List.sum_cons, ih, UInt64.ofNat_add]

/-- Each packet is on one CPU. -/
lemma sum_countP (ps : List (Passed cpus)) (slot : CounterSlot) :
    ∑ cpu, ps.countP (fun p => p.cpu = cpu ∧ p.slot = slot) =
      ps.countP fun p => p.slot = slot := by
  induction ps with
  | nil => simp
  | cons p ps ih =>
    simp only [List.countP_cons, Finset.sum_add_distrib, ih]
    by_cases hslot : p.slot = slot <;> simp [hslot]

/-- What went by stays counted. -/
lemma passed_suffix (cfg : Config) : ∀ {first last : List (PlaneEvent ε cpus)}, first <:+ last →
    passed cfg first <:+ passed cfg last
  | first, [], h => by rw [List.suffix_nil.mp h]
  | first, event :: older, h => by
    rcases List.suffix_cons_iff.mp h with rfl | h
    · exact List.suffix_rfl
    · have ih := passed_suffix cfg h
      cases event with
      | packet cpu skb => exact ih.trans (List.suffix_cons _ _)
      | pass x => exact ih

lemma count_mono (cfg : Config) {first last : List (PlaneEvent ε cpus)} (h : first <:+ last)
    (counted : Passed cpus → Bool) :
    (passed cfg first).countP counted ≤ (passed cfg last).countP counted :=
  (passed_suffix cfg h).sublist.countP_le

/-- **A sum counts the packets** of the slot, some of those that passed during the reading
included. -/
lemma sumCpus_read {cfg : Config} {first last : List (PlaneEvent ε cpus)} {get : SlotLookup cpus}
    (h : ReadDuring cfg first last get) {slot : CounterSlot} {perCpu : Fin cpus → UInt64}
    (hget : get slot = some perCpu) :
    ∃ n, sumCpus perCpu = UInt64.ofNat n ∧
      ((passed cfg first).countP fun p => p.slot = slot) ≤ n ∧
      n ≤ (passed cfg last).countP fun p => p.slot = slot := by
  choose seen hfirst hlast hvalue using h slot perCpu hget
  have hsum : sumCpus perCpu = UInt64.ofNat
      (∑ cpu, (passed cfg (seen cpu)).countP fun p => p.cpu = cpu ∧ p.slot = slot) := by
    have hvalues : List.ofFn perCpu = (List.ofFn fun cpu => (passed cfg (seen cpu)).countP
        fun p => p.cpu = cpu ∧ p.slot = slot).map UInt64.ofNat := by
      rw [List.map_ofFn]
      congr 1
      funext cpu
      exact (hvalue cpu).trans (array_eq cfg cpu slot (seen cpu))
    rw [sumCpus, hvalues, sum_ofNat, List.sum_ofFn]
  refine ⟨_, hsum, ?_, ?_⟩
  · rw [← sum_countP]
    exact Finset.sum_le_sum fun cpu _ => count_mono cfg (hfirst cpu) _
  · rw [← sum_countP (passed cfg last)]
    exact Finset.sum_le_sum fun cpu _ => count_mono cfg (hlast cpu) _

/-- Every packet has one of the three slots. -/
lemma slots_add (ps : List (Passed cpus)) :
    (ps.countP fun p => p.slot = .tagged) + (ps.countP fun p => p.slot = .untagged) +
      (ps.countP fun p => p.slot = .skipped) = ps.length := by
  induction ps with
  | nil => rfl
  | cons p ps ih =>
    simp only [List.countP_cons, List.length_cons, decide_eq_true_eq]
    cases hslot : p.slot <;> simp <;> omega

end Counting

/-- **The counters lose no packet.**  At any moment of any run, whatever syncs of the map failed in
between and on whichever CPUs the packets came, a report says how many packets got a mark, how many
had a DSCP but got none, and how many had none: of the packets that passed while it was read some
may be missing, of those before none, and none is counted twice.  So these add up to all packets, if
no packet passed during the reading; all as far as 64 bits go.  A report whose reading failed says
0. -/
theorem counters_exact {cfg : Config} {first last : List (PlaneEvent ε cpus)}
    {get : SlotLookup cpus} (hread : ReadDuring cfg first last get) :
    (∀ c, counters get = some c → ∃ tagged untagged skipped,
      c = ⟨UInt64.ofNat tagged, UInt64.ofNat untagged, UInt64.ofNat skipped⟩ ∧
      tagged ∈ Set.Icc ((passed cfg first).countP fun p => p.mark.isSome)
        ((passed cfg last).countP fun p => p.mark.isSome) ∧
      untagged ∈ Set.Icc ((passed cfg first).countP fun p => p.mark.isNone && (dscpOf p.skb).isSome)
        ((passed cfg last).countP fun p => p.mark.isNone && (dscpOf p.skb).isSome) ∧
      skipped ∈ Set.Icc ((passed cfg first).countP fun p => p.mark.isNone && (dscpOf p.skb).isNone)
        ((passed cfg last).countP fun p => p.mark.isNone && (dscpOf p.skb).isNone) ∧
      tagged + untagged + skipped ∈ Set.Icc (passed cfg first).length (passed cfg last).length) ∧
      ((∃ slot, get slot = none) → reported get = {}) := by
  constructor
  · intro c hc
    simp only [counters, Option.bind_eq_bind, Option.bind_eq_some_iff, Option.pure_def,
      Option.some.injEq] at hc
    obtain ⟨perTagged, htagged, perUntagged, huntagged, perSkipped, hskipped, rfl⟩ := hc
    obtain ⟨tagged, ht, ht₁, ht₂⟩ := sumCpus_read hread htagged
    obtain ⟨untagged, hu, hu₁, hu₂⟩ := sumCpus_read hread huntagged
    obtain ⟨skipped, hs, hs₁, hs₂⟩ := sumCpus_read hread hskipped
    have hfirst := slots_add (passed cfg first)
    have hlast := slots_add (passed cfg last)
    refine ⟨tagged, untagged, skipped, by rw [ht, hu, hs], ?_, ?_, ?_, by omega, by omega⟩
    · rw [← funext decide_slot_tagged]
      exact ⟨ht₁, ht₂⟩
    · rw [← funext decide_slot_untagged]
      exact ⟨hu₁, hu₂⟩
    · rw [← funext decide_slot_skipped]
      exact ⟨hs₁, hs₂⟩
  · rintro ⟨slot, hslot⟩
    have hnone : counters get = none := by
      rw [counters]
      cases slot with
      | tagged => simp [hslot]
      | untagged => cases get .tagged <;> simp [hslot]
      | skipped => cases get .tagged <;> cases get .untagged <;> simp [hslot]
    rw [reported, hnone, Option.getD_none]

/-- The daemon has got another id, and no operation of the sync goes through. -/
def unsyncedOutside : Outside String :=
  ⟨fun _ => .ok ⟨[⟨110, 0, 0, 1⟩], some 5⟩, .error "not asked",
    ⟨true, fun _ => true, fun _ => false, fun _ => false⟩, 10, 10⟩

/-- An answer with the new id for a tag. -/
def newAnswer : Skb := { taggedAnswer with net := taggedAnswer.net.set 1 20 }

/-- Two passes, the second with a sync that fails, and a packet with the old id for a tag. -/
def unsyncedRun : List (PlaneEvent String 2) :=
  [.packet 0 taggedAnswer, .pass unsyncedOutside, .pass heardOutside]

/-- A reading during which a packet comes: the first lookup does not see it, the others do. -/
def tornLookup : SlotLookup 2
  | .tagged => some fun cpu => (afterEvents slidingConfig unsyncedRun).array cpu .tagged
  | slot => some fun cpu =>
    (afterEvents slidingConfig (.packet 1 newAnswer :: unsyncedRun)).array cpu slot

lemma tornLookup_read :
    ReadDuring slidingConfig unsyncedRun (.packet 1 newAnswer :: unsyncedRun) tornLookup := by
  rintro slot perCpu hget cpu
  cases slot <;> obtain rfl := Option.some.inj hget
  · exact ⟨_, List.suffix_rfl, List.suffix_cons _ _, rfl⟩
  · exact ⟨_, List.suffix_cons _ _, List.suffix_rfl, rfl⟩
  · exact ⟨_, List.suffix_cons _ _, List.suffix_rfl, rfl⟩

theorem counters_exact_torn : counters tornLookup = some ⟨1, 1, 0⟩ ∧
    ∃ tagged untagged skipped, (⟨1, 1, 0⟩ : Counters) =
        ⟨UInt64.ofNat tagged, UInt64.ofNat untagged, UInt64.ofNat skipped⟩ ∧
      tagged ∈ Set.Icc 1 1 ∧ untagged ∈ Set.Icc 0 1 ∧ skipped ∈ Set.Icc 0 0 ∧
      tagged + untagged + skipped ∈ Set.Icc 1 2 := by
  have hreport : counters tornLookup = some ⟨1, 1, 0⟩ := by decide
  exact ⟨hreport, (counters_exact tornLookup_read).1 _ hreport⟩

/-! ## What the marks mean -/

/-- Some pass of the run has given the id to a daemon. -/
def GivenOut (cfg : Config) (run : List (PlaneEvent ε cpus)) (id : UInt8) : Prop :=
  ∃ later x older, run = later ++ .pass x :: older ∧
    ∃ name, (reconcileOnce cfg x (afterEvents cfg older).router).ids.lookup name = some id

section Marks

variable {o : MapOutcome} {k : UInt8} {m : UInt32}

/-- The first loop of a sync adds nothing. -/
lemma lookup_of_removeStale {ids : List UInt8} :
    ∀ {existing : List UInt8} {map : DscpIds},
      (removeStale o ids existing map).lookup k = some m → map.lookup k = some m
  | [], _, h => h
  | id :: existing, map, h => by
    have hstep : (if id ∉ ids then if o.removed id then map.erase id else map else map).lookup k =
        some m := lookup_of_removeStale h
    split at hstep
    · split at hstep
      · by_cases hk : k = id
        · subst hk
          simp at hstep
        · rwa [AList.lookup_erase_ne hk] at hstep
      · exact hstep
    · exact hstep

/-- The second adds ids of the pass, each under itself, as far as it gets. -/
lemma lookup_of_insertIds : ∀ {ids : List UInt8} {map : DscpIds},
    (insertIds o ids map).2.lookup k = some m →
      map.lookup k = some m ∨ k ∈ ids ∧ m = k.toUInt32
  | [], _, h => Or.inl h
  | id :: ids, map, h => by
    rw [insertIds] at h
    split at h
    · rcases lookup_of_insertIds h with h | ⟨hk, hm⟩
      · by_cases hk : k = id
        · subst hk
          rw [AList.lookup_insert, Option.some.injEq] at h
          exact Or.inr ⟨List.mem_cons_self, h.symm⟩
        · rw [AList.lookup_insert_ne hk] at h
          exact Or.inl h
      · exact Or.inr ⟨List.mem_cons_of_mem _ hk, hm⟩
    · exact Or.inl h

/-- **What a sync leaves**, whichever of its operations fail, was there before or is an id of the
pass under itself. -/
lemma lookup_of_syncIds {ids : List UInt8} {map : DscpIds}
    (h : (syncIds o ids map).2.lookup k = some m) :
    map.lookup k = some m ∨ k ∈ ids ∧ m = k.toUInt32 := by
  rw [syncIds] at h
  split at h
  · rcases lookup_of_insertIds h with h | h
    · exact Or.inl (lookup_of_removeStale h)
    · exact Or.inr h
  · exact Or.inl h

lemma GivenOut.cons {cfg : Config} {run : List (PlaneEvent ε cpus)} {id : UInt8}
    (h : GivenOut cfg run id) (event : PlaneEvent ε cpus) : GivenOut cfg (event :: run) id := by
  obtain ⟨later, x, older, rfl, hid⟩ := h
  exact ⟨event :: later, x, older, rfl, hid⟩

/-- **The invariant of the map**: its entries are ids that were given out, each under itself. -/
lemma lookup_datapath (cfg : Config) : ∀ (run : List (PlaneEvent ε cpus)),
    (afterEvents cfg run).router.datapath.lookup k = some m →
      m = k.toUInt32 ∧ Usable k ∧ GivenOut cfg run k
  | [], h => by simp [afterEvents] at h
  | .packet cpu skb :: older, h => by
    obtain ⟨hm, hu, hg⟩ := lookup_datapath cfg older h
    exact ⟨hm, hu, hg.cons _⟩
  | .pass x :: older, h => by
    have hsync : (reconcileOnce cfg x (afterEvents cfg older).router).state.datapath.lookup k =
        some m := h
    rw [reconcileOnce_datapath] at hsync
    rcases lookup_of_syncIds hsync with h | ⟨hk, hm⟩
    · obtain ⟨hm, hu, hg⟩ := lookup_datapath cfg older h
      exact ⟨hm, hu, hg.cons _⟩
    · obtain ⟨name, hid⟩ := mem_idSet.mp hk
      exact ⟨hm, reconcileOnce_usable hid, [], x, older, rfl, name, hid⟩

end Marks

/-- The ids in range. -/
def usableIds : List UInt8 := (List.range 63).map fun i => UInt8.ofNat (i + 1)

lemma mem_usableIds {id : UInt8} (h : Usable id) : id ∈ usableIds := by
  obtain ⟨hne, hle⟩ := h
  have hpos : id.toNat ≠ 0 := fun h0 => hne (UInt8.toNat_inj.mp h0)
  have hmax : id.toNat ≤ 63 := UInt8.le_iff_toNat_le.mp hle
  refine List.mem_map.mpr ⟨id.toNat - 1, List.mem_range.mpr (by omega), ?_⟩
  rw [Nat.sub_add_cancel (Nat.one_le_iff_ne_zero.mpr hpos), UInt8.ofNat_toNat]

/-- **A mark is the tag of its packet.**  In any run, whichever operations of whichever syncs
failed, a packet that gets a mark gets its own DSCP, which is in range and was given out as an id by
a pass before it; and the map, which has room for 64 entries, never holds more than 63. -/
theorem marks_are_tags (cfg : Config) (older : List (PlaneEvent ε cpus)) :
    (∀ (skb : Skb) (m : UInt32),
      (steer (afterEvents cfg older).router.datapath skb).mark = some m →
        ∃ dscp, dscpOf skb = some dscp ∧ m = dscp.toUInt32 ∧ Usable dscp ∧
          GivenOut cfg older dscp) ∧
      (afterEvents cfg older).router.datapath.keys.length ≤ 63 := by
  constructor
  · intro skb m h
    obtain ⟨dscp, hdscp, -, hlookup⟩ := steer_mark_iff.mp h
    exact ⟨dscp, hdscp, lookup_datapath cfg _ hlookup⟩
  · have hsub : (afterEvents cfg older).router.datapath.keys ⊆ usableIds := by
      intro k hk
      obtain ⟨m, hm⟩ := HashMap.mem_iff_lookup.mp (AList.mem_keys.mpr hk)
      exact mem_usableIds (lookup_datapath cfg _ hm).2.1
    have hle := (List.subperm_of_subset (AList.keys_nodup _) hsub).length_le
    simpa [usableIds] using hle

-- behind a sync that fails the old id is still a tag, and the new one is none yet
example :
    (steer (afterEvents slidingConfig unsyncedRun).router.datapath taggedAnswer).mark = some 4 ∧
    (steer (afterEvents slidingConfig unsyncedRun).router.datapath newAnswer).mark = none := by
  decide

end Dumbarp.Routerd
