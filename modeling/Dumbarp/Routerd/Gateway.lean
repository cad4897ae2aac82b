/-
Learning the daemons through a gateway, or polling them.

The two passes see the same daemons in the same order, but the polled one also resolves an id for
the daemons it has no leases of: they advertise nothing, and so claim the id they are freshly
remembered under.  A gateway does not pass these on.  The passes come to the same result iff every
such id is left to a daemon with leases, at no cost to that daemon.
-/
import Dumbarp.Gateway.Http

namespace Dumbarp.Routerd

open Api Routing Gateway

/-! ## The two passes, from a view -/

/-- The ids that the polled pass computes from a view. -/
def polledIds (daemons : List DaemonEntry) (view : HashMap String Leases)
    (remembered : HashMap String RememberedId) (stale now : ℕ) : HashMap String UInt8 :=
  (resolveIds (advertisedBy daemons view) remembered stale now).1

/-- The ids that the pass through a gateway computes from what it has learnt. -/
def learntIds (routes : List DaemonRoutes) (remembered : HashMap String RememberedId)
    (stale now : ℕ) : HashMap String UInt8 :=
  (resolveIds (advertisedThrough routes) remembered stale now).1

/-- The pass through a gateway that has the same view learns its daemons, and computes the same
routes and the same set of ids as the polled pass. -/
def Equivalent (json : Json) (url : String) (daemons : List DaemonEntry)
    (view : HashMap String Leases) (remembered : HashMap String RememberedId) (stale now : ℕ)
    (sourceBasedRouting : Bool) : Prop :=
  ∃ routes,
    fetchDaemons json url (json.encode (daemonsHandler daemons view)) gatewayCacheKey
      = .ok routes ∧
    buildDaemonSpecs daemons view (polledIds daemons view remembered stale now) sourceBasedRouting
      = buildGatewaySpecs routes ∅ (learntIds routes remembered stale now) sourceBasedRouting ∧
    ∀ id, id ∈ idSet (polledIds daemons view remembered stale now) ↔
      id ∈ idSet (learntIds routes remembered stale now)

/-- Among the daemons with leases, `f` is the first with the candidate `id`. -/
structure FirstHeard (daemons : List DaemonEntry) (view : HashMap String Leases)
    (remembered : HashMap String RememberedId) (stale now : ℕ) (id : UInt8)
    (before : List DaemonEntry) (f : DaemonEntry) (leases : Leases) (after : List DaemonEntry) :
    Prop where
  split : daemons = before ++ f :: after
  heard : view.lookup f.name = some leases
  candidate : candidate remembered stale now (f.name, leases.dumbarpdId) = some id
  first : ∀ d ∈ before, ∀ l, view.lookup d.name = some l →
    Routerd.candidate remembered stale now (d.name, l.dumbarpdId) ≠ some id

/-- The id of every daemon without leases that is freshly remembered is left to a daemon with
leases; and the first such daemon stands before it or has no address, unless the routes carry no
marks. -/
def LeavesIds (daemons : List DaemonEntry) (view : HashMap String Leases)
    (remembered : HashMap String RememberedId) (stale now : ℕ) (sourceBasedRouting : Bool) : Prop :=
  ∀ d ∈ daemons, view.lookup d.name = none → ∀ prev, remembered.lookup d.name = some prev →
    now - prev.seen < stale → Usable prev.id →
      ∃ before f leases after,
        FirstHeard daemons view remembered stale now prev.id before f leases after ∧
          (sourceBasedRouting = true ∨ leases.ips = [] ∨ d ∈ after)

/-! ## The same ids give the same routes -/

section Specs

variable {view : HashMap String Leases} {ids ids' : HashMap String UInt8}
  {sourceBasedRouting : Bool}

lemma buildGatewaySpecs_behind (daemons : List DaemonEntry) (view : HashMap String Leases)
    (ids : HashMap String UInt8) (sourceBasedRouting : Bool) :
    buildGatewaySpecs (behind daemons view) ∅ ids sourceBasedRouting
      = buildDaemonSpecs daemons view ids sourceBasedRouting := by
  induction daemons with
  | nil => rfl
  | cons d daemons ih =>
    simp only [buildGatewaySpecs, buildDaemonSpecs, behind] at ih ⊢
    rw [List.flatMap_cons, ← ih]
    cases hd : view.lookup d.name with
    | none =>
      have hr : routesOf view d = none := by simp [routesOf, hd]
      rw [List.filterMap_cons_none hr, daemonSpecs, hd]
      rfl
    | some leases =>
      have hr : routesOf view d
          = some ⟨d.name, d.nexthop, d.device, leases.dumbarpdId, leases.ips⟩ := by
        simp [routesOf, hd]
      rw [List.filterMap_cons_some hr, List.flatMap_cons, daemonSpecs, hd]
      rfl

/-- Leaving parts out makes a list shorter. -/
lemma length_flatMap_le {A B : Type} {f g : A → List B} :
    ∀ {xs : List A}, (∀ x ∈ xs, f x = [] ∨ f x = g x) →
      (xs.flatMap f).length ≤ (xs.flatMap g).length
  | [], _ => by simp
  | x :: xs, h => by
    have ih := length_flatMap_le fun y hy => h y (List.mem_cons_of_mem x hy)
    simp only [List.flatMap_cons, List.length_append]
    rcases h x List.mem_cons_self with hx | hx
    · rw [hx]
      simp only [List.length_nil]
      omega
    · rw [hx]
      omega

/-- A list of parts with some left out is the whole list iff nothing that matters is left out. -/
lemma flatMap_eq_flatMap_iff {A B : Type} {f g : A → List B} :
    ∀ {xs : List A}, (∀ x ∈ xs, f x = [] ∨ f x = g x) →
      (xs.flatMap f = xs.flatMap g ↔ ∀ x ∈ xs, f x = g x)
  | [], _ => by simp
  | x :: xs, h => by
    have hrest : ∀ y ∈ xs, f y = [] ∨ f y = g y := fun y hy => h y (List.mem_cons_of_mem _ hy)
    rw [List.flatMap_cons, List.flatMap_cons, List.forall_mem_cons, ← flatMap_eq_flatMap_iff hrest]
    constructor
    · intro heq
      have hx : f x = g x := by
        rcases h x List.mem_cons_self with hx | hx
        · -- the rest cannot make up for what is left out here
          have hcount := congrArg List.length heq
          have hle := length_flatMap_le hrest
          rw [hx] at hcount ⊢
          simp only [List.length_append, List.length_nil] at hcount
          exact (List.length_eq_zero_iff.mp (by omega)).symm
        · exact hx
      refine ⟨hx, ?_⟩
      rw [hx] at heq
      exact List.append_cancel_left heq
    · rintro ⟨hx, hrest⟩
      rw [hx, hrest]

variable {d : DaemonEntry} {leases : Leases}

/-- Fewer ids leave the specs of a daemon as they are, if they carry no marks, the daemon has no
address, or it keeps its id. -/
lemma daemonSpecs_eq_iff (hl : view.lookup d.name = some leases)
    (hsub : ∀ id, ids.lookup d.name = some id → ids'.lookup d.name = some id) :
    daemonSpecs view ids sourceBasedRouting d = daemonSpecs view ids' sourceBasedRouting d ↔
      sourceBasedRouting = true ∨ leases.ips = [] ∨
        ∀ id, ids'.lookup d.name = some id → ids.lookup d.name = some id := by
  cases sourceBasedRouting with
  | true => simp [daemonSpecs, hl, specMark]
  | false =>
    cases hid : ids.lookup d.name with
    | some id => simp [daemonSpecs, hl, specMark, hid, hsub id hid]
    | none =>
      cases hid' : ids'.lookup d.name with
      | none => simp [daemonSpecs, hl, specMark, hid, hid']
      | some id => simp [daemonSpecs, hl, specMark, hid, hid', pushSpecs]

lemma daemonSpecs_nil_or_eq (hsub : ∀ leases, view.lookup d.name = some leases →
      ∀ id, ids.lookup d.name = some id → ids'.lookup d.name = some id) :
    daemonSpecs view ids sourceBasedRouting d = [] ∨
      daemonSpecs view ids sourceBasedRouting d = daemonSpecs view ids' sourceBasedRouting d := by
  cases hl : view.lookup d.name with
  | none => simp [daemonSpecs, hl]
  | some leases =>
    cases hid : ids.lookup d.name with
    | some id =>
      have hid' := hsub leases hl id hid
      simp [daemonSpecs, specMark, hid, hid']
    | none =>
      cases sourceBasedRouting with
      | true => simp [daemonSpecs, specMark]
      | false => simp [daemonSpecs, hl, specMark, hid]

end Specs

/-! ## The ids of all daemons, and of those with leases -/

/-- The daemon has leases. -/
def heardIn (view : HashMap String Leases) (d : DaemonEntry) : Bool := (view.lookup d.name).isSome

/-- What `resolve_ids` is told of a daemon. -/
def entryOf (view : HashMap String Leases) (d : DaemonEntry) : String × Option UInt8 :=
  (d.name, (view.lookup d.name).bind Leases.dumbarpdId)

lemma advertisedThrough_behind (daemons : List DaemonEntry) (view : HashMap String Leases) :
    advertisedThrough (behind daemons view)
      = advertisedBy (daemons.filter (heardIn view)) view := by
  induction daemons with
  | nil => rfl
  | cons d daemons ih =>
    simp only [behind, advertisedThrough, advertisedBy] at ih ⊢
    cases hd : view.lookup d.name with
    | none =>
      have hr : routesOf view d = none := by simp [routesOf, hd]
      have hh : ¬ heardIn view d = true := by simp [heardIn, hd]
      rw [List.filterMap_cons_none hr, List.filter_cons_of_neg hh, ih]
    | some leases =>
      have hr : routesOf view d
          = some ⟨d.name, d.nexthop, d.device, leases.dumbarpdId, leases.ips⟩ := by
        simp [routesOf, hd]
      have hh : heardIn view d = true := by simp [heardIn, hd]
      rw [List.filterMap_cons_some hr, List.filter_cons_of_pos hh, List.map_cons, List.map_cons,
        ih, hd]
      rfl

/-- The pass through a gateway resolves the ids of the daemons with leases. -/
lemma learntIds_behind (daemons : List DaemonEntry) (view : HashMap String Leases)
    (remembered : HashMap String RememberedId) (stale now : ℕ) :
    learntIds (behind daemons view) remembered stale now
      = polledIds (daemons.filter (heardIn view)) view remembered stale now := by
  rw [learntIds, advertisedThrough_behind, polledIds]

section Ids

variable {daemons before after : List DaemonEntry} {d : DaemonEntry}
  {view : HashMap String Leases} {remembered : HashMap String RememberedId} {stale now : ℕ}
  {id : UInt8}

lemma advertisedBy_names (hd : (daemons.map DaemonEntry.name).Nodup) :
    ((advertisedBy daemons view).map Prod.fst).Nodup := by
  simpa [advertisedBy, Function.comp_def] using hd

lemma filter_names (hd : (daemons.map DaemonEntry.name).Nodup) :
    ((daemons.filter (heardIn view)).map DaemonEntry.name).Nodup :=
  hd.sublist (List.Sublist.map _ List.filter_sublist)

lemma behind_names (hd : (daemons.map DaemonEntry.name).Nodup) :
    ((behind daemons view).map DaemonRoutes.name).Nodup := by
  have hnames : ((advertisedBy (daemons.filter (heardIn view)) view).map Prod.fst).Nodup :=
    advertisedBy_names (filter_names hd)
  rw [← advertisedThrough_behind] at hnames
  simpa [advertisedThrough, Function.comp_def] using hnames

lemma lookup_polledIds (hd : ((before ++ d :: after).map DaemonEntry.name).Nodup) :
    (polledIds (before ++ d :: after) view remembered stale now).lookup d.name = some id ↔
      candidate remembered stale now (entryOf view d) = some id ∧ Usable id ∧
        ∀ e ∈ before, candidate remembered stale now (entryOf view e) ≠ some id := by
  have hnames : ((advertisedBy (before ++ d :: after) view).map Prod.fst).Nodup :=
    advertisedBy_names hd
  have hsplit : advertisedBy (before ++ d :: after) view
      = advertisedBy before view ++ entryOf view d :: advertisedBy after view := by
    simp [advertisedBy, entryOf]
  rw [hsplit] at hnames
  rw [polledIds, hsplit]
  refine (lookup_of_split hnames).trans ?_
  rw [advertisedBy, List.forall_mem_map]
  rfl

/-- The ids of a pass are the candidates of its daemons that are in range. -/
lemma mem_idSet_polledIds (hd : (daemons.map DaemonEntry.name).Nodup) :
    id ∈ idSet (polledIds daemons view remembered stale now) ↔
      Usable id ∧ ∃ e ∈ daemons, candidate remembered stale now (entryOf view e) = some id := by
  have hnames : ((advertisedBy daemons view).map Prod.fst).Nodup := advertisedBy_names hd
  rw [mem_idSet]
  constructor
  · rintro ⟨name, hname⟩
    obtain ⟨adv, hg⟩ := (resolveIds_lookup hnames).mp hname
    obtain ⟨e, he, heq⟩ := List.mem_map.mp hg.mem
    refine ⟨hg.usable, e, he, ?_⟩
    rw [← hg.candidate_eq, ← heq]
    rfl
  · rintro ⟨hu, e, he, hc⟩
    have hmem : entryOf view e ∈ advertisedBy daemons view := List.mem_map_of_mem he
    obtain ⟨first, -, hg⟩ := exists_gets hmem hc hu
    rw [List.append_nil] at hg
    exact ⟨first.1, (resolveIds_lookup hnames).mpr ⟨first.2, hg⟩⟩

/-- An id of a pass belongs to one of its daemons. -/
lemma exists_lookup_of_mem_idSet (hd : (daemons.map DaemonEntry.name).Nodup)
    (h : id ∈ idSet (polledIds daemons view remembered stale now)) :
    ∃ e ∈ daemons, (polledIds daemons view remembered stale now).lookup e.name = some id := by
  have hnames : ((advertisedBy daemons view).map Prod.fst).Nodup := advertisedBy_names hd
  obtain ⟨name, hname⟩ := mem_idSet.mp h
  obtain ⟨adv, hg⟩ := (resolveIds_lookup hnames).mp hname
  obtain ⟨e, he, heq⟩ := List.mem_map.mp hg.mem
  obtain ⟨rfl, -⟩ := Prod.mk.inj heq
  exact ⟨e, he, hname⟩

lemma lookup_polledIds_filter (hd : ((before ++ d :: after).map DaemonEntry.name).Nodup)
    {leases : Leases} (hl : view.lookup d.name = some leases) :
    (polledIds ((before ++ d :: after).filter (heardIn view)) view remembered stale now).lookup
        d.name = some id ↔
      candidate remembered stale now (entryOf view d) = some id ∧ Usable id ∧
        ∀ e ∈ before, ∀ l, view.lookup e.name = some l →
          candidate remembered stale now (e.name, l.dumbarpdId) ≠ some id := by
  have hheard : heardIn view d = true := by simp [heardIn, hl]
  have hsplit : (before ++ d :: after).filter (heardIn view)
      = before.filter (heardIn view) ++ d :: after.filter (heardIn view) := by
    rw [List.filter_append, List.filter_cons_of_pos hheard]
  have hnames : (((before ++ d :: after).filter (heardIn view)).map DaemonEntry.name).Nodup :=
    filter_names hd
  rw [hsplit] at hnames ⊢
  rw [lookup_polledIds hnames]
  refine and_congr_right fun _ => and_congr_right fun _ => forall_congr' fun e => ?_
  rw [List.mem_filter, and_imp]
  refine forall_congr' fun _ => ?_
  cases he : view.lookup e.name with
  | none => simp [heardIn, he]
  | some l => simp [heardIn, he, entryOf]

/-- A daemon that keeps its id among all daemons has it among those with leases. -/
lemma lookup_filter_of_lookup (hd : (daemons.map DaemonEntry.name).Nodup) (hmem : d ∈ daemons)
    {leases : Leases} (hl : view.lookup d.name = some leases)
    (h : (polledIds daemons view remembered stale now).lookup d.name = some id) :
    (polledIds (daemons.filter (heardIn view)) view remembered stale now).lookup d.name
      = some id := by
  obtain ⟨before, after, rfl⟩ := List.append_of_mem hmem
  obtain ⟨hc, hu, hb⟩ := (lookup_polledIds hd).mp h
  refine (lookup_polledIds_filter hd hl).mpr ⟨hc, hu, fun e he l hel => ?_⟩
  have := hb e he
  rwa [entryOf, hel] at this

/-- A daemon without leases has a candidate iff it is freshly remembered. -/
lemma candidate_unheard (hl : view.lookup d.name = none) :
    candidate remembered stale now (entryOf view d) = some id ↔
      ∃ prev, remembered.lookup d.name = some prev ∧ now - prev.seen < stale ∧ prev.id = id := by
  cases hprev : remembered.lookup d.name with
  | none => simp [candidate, entryOf, hl, hprev]
  | some prev =>
    by_cases hfresh : now - prev.seen < stale
    · simp [candidate, entryOf, hl, hprev, hfresh]
    · simp [candidate, entryOf, hl, hprev, hfresh]

end Ids

/-! ## When the passes agree -/

section Agree

variable {daemons : List DaemonEntry} {view : HashMap String Leases}
  {remembered : HashMap String RememberedId} {stale now : ℕ} {sourceBasedRouting : Bool}

/-- The polled pass and the one over the daemons with leases agree. -/
def Agree (daemons : List DaemonEntry) (view : HashMap String Leases)
    (remembered : HashMap String RememberedId) (stale now : ℕ) (sourceBasedRouting : Bool) : Prop :=
  buildDaemonSpecs daemons view (polledIds daemons view remembered stale now) sourceBasedRouting
      = buildDaemonSpecs daemons view
        (polledIds (daemons.filter (heardIn view)) view remembered stale now) sourceBasedRouting ∧
    ∀ id, id ∈ idSet (polledIds daemons view remembered stale now) ↔
      id ∈ idSet (polledIds (daemons.filter (heardIn view)) view remembered stale now)

/-- The routes agree iff no daemon with leases and an address loses its id to one without. -/
lemma specs_agree_iff (hd : (daemons.map DaemonEntry.name).Nodup) :
    buildDaemonSpecs daemons view (polledIds daemons view remembered stale now) sourceBasedRouting
        = buildDaemonSpecs daemons view
          (polledIds (daemons.filter (heardIn view)) view remembered stale now)
          sourceBasedRouting ↔
      ∀ d ∈ daemons, ∀ leases, view.lookup d.name = some leases →
        sourceBasedRouting = true ∨ leases.ips = [] ∨ ∀ id,
          (polledIds (daemons.filter (heardIn view)) view remembered stale now).lookup d.name
            = some id →
          (polledIds daemons view remembered stale now).lookup d.name = some id := by
  have hsub : ∀ d ∈ daemons, ∀ leases, view.lookup d.name = some leases → ∀ id,
      (polledIds daemons view remembered stale now).lookup d.name = some id →
        (polledIds (daemons.filter (heardIn view)) view remembered stale now).lookup d.name
          = some id :=
    fun d hmem leases hl id h => lookup_filter_of_lookup hd hmem hl h
  rw [buildDaemonSpecs, buildDaemonSpecs,
    flatMap_eq_flatMap_iff fun d hmem => daemonSpecs_nil_or_eq (hsub d hmem)]
  refine forall₂_congr fun d hmem => ?_
  cases hl : view.lookup d.name with
  | none => simp [daemonSpecs, hl]
  | some leases =>
    rw [daemonSpecs_eq_iff hl (hsub d hmem leases hl)]
    simp

/-- The first daemon with leases and a candidate in range has it in the pass over these. -/
lemma FirstHeard.lookup {id : UInt8} {before after : List DaemonEntry} {f : DaemonEntry}
    {leases : Leases} (hd : (daemons.map DaemonEntry.name).Nodup)
    (h : FirstHeard daemons view remembered stale now id before f leases after) (hu : Usable id) :
    (polledIds (daemons.filter (heardIn view)) view remembered stale now).lookup f.name
      = some id := by
  obtain ⟨rfl, hl, hc, hfirst⟩ := h
  refine (lookup_polledIds_filter hd hl).mpr ⟨?_, hu, hfirst⟩
  rwa [entryOf, hl]

/-- If the polled pass uses the id of a daemon without leases, the other pass gives it to one with
leases, which must have kept it. -/
lemma leavesIds_of_agree (hd : (daemons.map DaemonEntry.name).Nodup)
    (h : Agree daemons view remembered stale now sourceBasedRouting) :
    LeavesIds daemons view remembered stale now sourceBasedRouting := by
  intro d hmem hl prev hprev hfresh hu
  have hc : candidate remembered stale now (entryOf view d) = some prev.id :=
    (candidate_unheard hl).mpr ⟨prev, hprev, hfresh, rfl⟩
  have hused := (h.2 prev.id).mp ((mem_idSet_polledIds hd).mpr ⟨hu, d, hmem, hc⟩)
  obtain ⟨f, hf, hlookup⟩ := exists_lookup_of_mem_idSet (filter_names hd) hused
  obtain ⟨hf, hheard⟩ := List.mem_filter.mp hf
  obtain ⟨leases, hleases⟩ := Option.isSome_iff_exists.mp hheard
  have hspecs := (specs_agree_iff hd).mp h.1 f hf leases hleases
  obtain ⟨before, after, rfl⟩ := List.append_of_mem hf
  obtain ⟨hcf, -, hfirst⟩ := (lookup_polledIds_filter hd hleases).mp hlookup
  rw [entryOf, hleases] at hcf
  refine ⟨before, f, leases, after, ⟨rfl, hleases, hcf, hfirst⟩, ?_⟩
  refine hspecs.imp_right fun hspecs => hspecs.imp_right fun hkept => ?_
  -- the daemon kept the id, so none before it has it as a candidate
  obtain ⟨-, -, hb⟩ := (lookup_polledIds hd).mp (hkept prev.id hlookup)
  rcases List.mem_append.mp hmem with hd' | hd'
  · exact absurd hc (hb d hd')
  · rcases List.mem_cons.mp hd' with rfl | hd'
    · rw [hl] at hleases
      cases hleases
    · exact hd'

/-- A daemon with leases and an address keeps its id, if the ids of those without are left. -/
lemma LeavesIds.keeps (hd : (daemons.map DaemonEntry.name).Nodup)
    (h : LeavesIds daemons view remembered stale now false) {d : DaemonEntry} (hmem : d ∈ daemons)
    {leases : Leases} (hl : view.lookup d.name = some leases) (hips : leases.ips ≠ []) {id : UInt8}
    (hid : (polledIds (daemons.filter (heardIn view)) view remembered stale now).lookup d.name
      = some id) :
    (polledIds daemons view remembered stale now).lookup d.name = some id := by
  obtain ⟨before, after, hsplit⟩ := List.append_of_mem hmem
  have hid' := hid
  have hd' := hd
  rw [hsplit] at hid' hd'
  obtain ⟨hc, hu, hfirst⟩ := (lookup_polledIds_filter hd' hl).mp hid'
  rw [hsplit]
  refine (lookup_polledIds hd').mpr ⟨hc, hu, fun e he hce => ?_⟩
  cases hle : view.lookup e.name with
  | some l =>
    rw [entryOf, hle] at hce
    exact hfirst e he l hle hce
  | none =>
    -- the id of `e` is left to the first daemon with leases that has it, which is `d`
    obtain ⟨prev, hprev, hfresh, rfl⟩ := (candidate_unheard hle).mp hce
    obtain ⟨before', f, leases', after', hf, hplace⟩ :=
      h e (by simp [hsplit, he]) hle prev hprev hfresh hu
    have hnames : ((advertisedBy (daemons.filter (heardIn view)) view).map Prod.fst).Nodup :=
      advertisedBy_names (filter_names hd)
    have hname : f.name = d.name := resolveIds_injective hnames (hf.lookup hd hu) hid
    have hfmem : f ∈ daemons := by
      rw [hf.split]
      simp
    obtain rfl : f = d := List.inj_on_of_nodup_map hd hfmem hmem hname
    obtain rfl : leases' = leases := Option.some.inj (hf.heard.symm.trans hl)
    obtain ⟨rfl, rfl⟩ := place_unique (List.Nodup.of_map _ hd) hf.split hsplit
    rcases hplace with hplace | hplace | hplace
    · cases hplace
    · exact hips hplace
    · -- `e` stands before `f`
      have hnodup := List.Nodup.of_map _ hd'
      rw [List.nodup_append] at hnodup
      exact hnodup.2.2 e he e (List.mem_cons_of_mem _ hplace) rfl

/-- **The passes agree** iff the ids of the daemons without leases are left to those with. -/
theorem agree_iff (hd : (daemons.map DaemonEntry.name).Nodup) :
    Agree daemons view remembered stale now sourceBasedRouting ↔
      LeavesIds daemons view remembered stale now sourceBasedRouting := by
  refine ⟨leavesIds_of_agree hd, fun h => ⟨(specs_agree_iff hd).mpr ?_, fun id => ?_⟩⟩
  · intro d hmem leases hl
    cases sourceBasedRouting with
    | true => exact Or.inl rfl
    | false =>
      by_cases hips : leases.ips = []
      · exact Or.inr (Or.inl hips)
      · exact Or.inr (Or.inr fun id hid => h.keeps hd hmem hl hips hid)
  · constructor
    · intro hid
      obtain ⟨hu, e, he, hc⟩ := (mem_idSet_polledIds hd).mp hid
      cases hl : view.lookup e.name with
      | some l =>
        have hheard : heardIn view e = true := by simp [heardIn, hl]
        exact (mem_idSet_polledIds (filter_names hd)).mpr
          ⟨hu, e, List.mem_filter.mpr ⟨he, hheard⟩, hc⟩
      | none =>
        obtain ⟨prev, hprev, hfresh, rfl⟩ := (candidate_unheard hl).mp hc
        obtain ⟨before, f, leases, after, hf, -⟩ := h e he hl prev hprev hfresh hu
        exact mem_idSet.mpr ⟨f.name, hf.lookup hd hu⟩
    · intro hid
      obtain ⟨hu, e, he, hc⟩ := (mem_idSet_polledIds (filter_names hd)).mp hid
      exact (mem_idSet_polledIds hd).mpr ⟨hu, e, (List.mem_filter.mp he).1, hc⟩

end Agree

/-- **Learning daemons through a gateway is the same as polling them** iff every id that a daemon
without leases is freshly remembered under is left to a daemon with leases, at no cost to that
one. -/
theorem equivalent_iff {json : Json} {url : String} {daemons : List DaemonEntry}
    {view : HashMap String Leases} {remembered : HashMap String RememberedId} {stale now : ℕ}
    {sourceBasedRouting : Bool} (hd : (daemons.map DaemonEntry.name).Nodup)
    (hdevice : ∀ d ∈ daemons, d.device ≠ "")
    (hjson : json.decode (json.encode (daemonsHandler daemons view))
      = some (daemonsHandler daemons view)) :
    Equivalent json url daemons view remembered stale now sourceBasedRouting ↔
      LeavesIds daemons view remembered stale now sourceBasedRouting := by
  rw [← agree_iff hd, Agree, ← learntIds_behind]
  have hfetch := fetchDaemons_daemonsHandler hjson hdevice url gatewayCacheKey
  constructor
  · rintro ⟨routes, hroutes, hspecs, hids⟩
    obtain rfl : behind daemons view = routes := Except.ok.inj (hfetch.symm.trans hroutes)
    rw [buildGatewaySpecs_behind] at hspecs
    exact ⟨hspecs, hids⟩
  · rintro ⟨hspecs, hids⟩
    refine ⟨behind daemons view, hfetch, ?_, hids⟩
    rw [buildGatewaySpecs_behind]
    exact hspecs

/-! ## The passes themselves -/

/-- The polled pass computes its result from the view of its cache. -/
lemma reconcileViaDaemons_polled {ε : Type} (cfg : Config)
    (fetched : DaemonEntry → Except ε Leases) (o : MapOutcome) (cacheNow now : ℕ)
    (s : RouterState) :
    let view := (applyRound cacheNow (cfg.daemons.map fun d => (d.name, fetched d))
      cfg.staleAfterSecs s.cache).1.2
    let result := reconcileViaDaemons cfg fetched o cacheNow now s
    result.ids = polledIds cfg.daemons view s.knownIds cfg.staleAfterSecs now ∧
      result.desired = buildDaemonSpecs cfg.daemons view result.ids cfg.sourceBasedRouting :=
  ⟨rfl, rfl⟩

/-- The pass through a gateway computes its result from what it has fetched. -/
lemma reconcileViaGateway_learnt {ε : Type} (cfg : Config) {routes : List DaemonRoutes}
    {fetched : Except ε (List DaemonRoutes)} (hf : fetched = .ok routes) (o : MapOutcome)
    (cacheNow now : ℕ) (s : RouterState) :
    let result := reconcileViaGateway cfg ∅ fetched o cacheNow now s
    result.ids = learntIds routes s.knownIds cfg.staleAfterSecs now ∧
      result.desired = buildGatewaySpecs routes ∅ result.ids cfg.sourceBasedRouting := by
  subst hf
  have hview : ((applyRound cacheNow [(gatewayCacheKey, (.ok routes : Except ε _))]
      cfg.staleAfterSecs s.gatewayCache).1.2.lookup gatewayCacheKey).getD [] = routes := by
    simp [applyRound, applyResult, snapshot]
  simp only [reconcileViaGateway, hview, learntIds]
  exact ⟨trivial, trivial⟩

/-! ## A daemon that has gone -/

/-- A daemon that has gone. -/
def goneDaemon : DaemonEntry :=
  ⟨"a", "http://10.0.0.5:1028", "token", ⟨10, 0, 0, 5⟩, "br0"⟩

/-- A daemon that advertises the id that the other is remembered under. -/
def liveDaemon : DaemonEntry :=
  ⟨"b", "http://10.0.0.6:1028", "token", ⟨10, 0, 0, 6⟩, "br0"⟩

/-- Only `b` has leases. -/
def liveView : HashMap String Leases := AList.insert "b" ⟨[⟨110, 0, 0, 1⟩], some 4⟩ ∅

/-- What a gateway answers about the two. -/
def liveText : String :=
  "\x7b\"daemons\":[\x7b\"name\":\"b\",\"nexthop\":\"10.0.0.6\",\"device\":\"br0\"," ++
    "\"dumbarpd_id\":4,\"ips\":[\"110.0.0.1\"]\x7d]\x7d"

/-- JSON, as far as that answer goes. -/
def liveJson (daemons : List DaemonEntry) : Json where
  encode response := if response = daemonsHandler daemons liveView then liveText else ""
  decode body := if body = liveText then some (daemonsHandler daemons liveView) else none

lemma liveJson_reads (daemons : List DaemonEntry) :
    (liveJson daemons).decode ((liveJson daemons).encode (daemonsHandler daemons liveView))
      = some (daemonsHandler daemons liveView) := by
  simp [liveJson]

/-- **A daemon that has gone costs a live one its routes**, but only if the daemons are polled. -/
theorem gone_daemon_keeps_id :
    ¬ ∀ (json : Json) (url : String) (daemons : List DaemonEntry) (view : HashMap String Leases)
      (remembered : HashMap String RememberedId) (stale now : ℕ) (sourceBasedRouting : Bool),
        (daemons.map DaemonEntry.name).Nodup → (∀ d ∈ daemons, d.name ≠ "" ∧ d.device ≠ "") →
          json.decode (json.encode (daemonsHandler daemons view))
              = some (daemonsHandler daemons view) →
            Equivalent json url daemons view remembered stale now sourceBasedRouting := by
  intro hall
  obtain ⟨routes, hroutes, hspecs, -⟩ := hall (liveJson [goneDaemon, liveDaemon])
    "http://10.0.0.1:1029" [goneDaemon, liveDaemon] liveView (AList.insert "a" ⟨4, 0⟩ ∅) 300 10
    false (by decide) (by decide) (liveJson_reads _)
  rw [fetchDaemons_daemonsHandler (liveJson_reads _) (by decide)] at hroutes
  obtain rfl := Except.ok.inj hroutes
  revert hspecs
  decide

/-- Listed after the live daemon, the one that has gone costs nothing. -/
theorem equivalent_live_first :
    Equivalent (liveJson [liveDaemon, goneDaemon]) "http://10.0.0.1:1029"
      [liveDaemon, goneDaemon] liveView (AList.insert "a" ⟨4, 0⟩ ∅) 300 10 false := by
  refine (equivalent_iff (by decide) (by decide) (liveJson_reads _)).mpr ?_
  intro d hmem hl prev hprev hfresh hu
  have hcases : d = liveDaemon ∨ d = goneDaemon := by simpa using hmem
  rcases hcases with rfl | rfl
  · exact absurd hl (by decide)
  · obtain rfl : (⟨4, 0⟩ : RememberedId) = prev :=
      Option.some.inj ((by decide : AList.lookup _ _ = _).symm.trans hprev)
    exact ⟨[], liveDaemon, ⟨[⟨110, 0, 0, 1⟩], some 4⟩, [goneDaemon],
      ⟨rfl, by decide, by decide, by simp⟩, Or.inr (Or.inr (by simp))⟩

end Dumbarp.Routerd
