/-
Reading the current lease (`dhcp-lease-read/src/isc_dhclient/read_lease.rs`).

The reader takes the leases of all files, drops the expired ones and selects the one that
expires last.  The parser gives it the leases of a file up to the first block that it does not
support, and no error, so a later lease behind such a block is not seen.
-/
import Dumbarp.IscDhclient.Print
import Dumbarp.Lib.MaxByKey
import Mathlib.Order.WithBot

namespace Dumbarp.IscDhclient

open Civil Parse MaxByKey

/-! ## The code -/

/-- `DhcpLease`. -/
structure DhcpLease where
  interface : String
  ipAddress : String
  subnetMask : String
  router : String
  expired : Bool
deriving DecidableEq, Repr

/-- `option_value`. -/
def optionValue (opts : List (String × String)) (key : String) : Option String :=
  (opts.find? fun kv => kv.1 = key).map Prod.snd

/-- The lease that the reader returns for the selected one. -/
def Lease.toDhcpLease (latest : Lease) : Option DhcpLease := do
  return {
    interface := ← latest.interface
    ipAddress := ← latest.fixedAddress
    subnetMask := ← optionValue latest.options "subnet-mask"
    router := ← optionValue latest.options "routers"
    expired := false }

/-- The lease expires later than a time, given in nanoseconds. -/
def Lease.Unexpired (now : ℤ) (l : Lease) : Prop :=
  ∃ e ∈ l.expire, now < e.timestamp * 1000000000

instance (now : ℤ) (l : Lease) : Decidable (l.Unexpired now) :=
  inferInstanceAs (Decidable (∃ e ∈ l.expire, now < e.timestamp * 1000000000))

/-- The order of leases in time; a lease that never expires counts as the earliest. -/
def Lease.expiry (l : Lease) : WithBot DateTime := l.expire

/-- `IscDhclientRead`. -/
structure IscDhclientRead where
  leaseFiles : List String

section Code

variable (platform : Platform) (readToString : String → Except String String)

/-- The leases that are read of a file: none, if it cannot be read. -/
def readFile (path : String) : List Lease :=
  match readToString path with
  | .error _ => []
  | .ok contents =>
    match (parseLeases platform).run contents.toList with
    | none => []
    | some (leases, _) => leases

/-- The lease that `read_dhcp_lease` selects. -/
def IscDhclientRead.latest (reader : IscDhclientRead) (now : ℤ) : Option Lease :=
  let all := reader.leaseFiles.flatMap (readFile platform readToString)
  maxByKey Lease.expiry (all.filter fun l => l.Unexpired now)

/-- `read_dhcp_lease`. -/
def IscDhclientRead.readDhcpLease (reader : IscDhclientRead) (now : ℤ) : Option DhcpLease :=
  (reader.latest platform readToString now).bind Lease.toDhcpLease

end Code

/-! ## Selecting a lease -/

/-- What a reader is to select: a lease that expires last of those that are not expired, or
none if all are. -/
def Selects (now : ℤ) (leases : List Lease) : Option Lease → Prop
  | some l => l ∈ leases ∧ l.Unexpired now ∧
      ∀ l' ∈ leases, l'.Unexpired now → l'.expiry ≤ l.expiry
  | none => ∀ l ∈ leases, ¬ l.Unexpired now

section Selecting

variable {now : ℤ} {leases : List Lease} {l l' : Lease}

/-- A lease that expires no earlier is not expired either. -/
lemma Lease.Unexpired.mono (h : l.Unexpired now) (hle : l.expiry ≤ l'.expiry) :
    l'.Unexpired now := by
  obtain ⟨e, he, hnow⟩ := h
  have hexpiry : l.expiry = (e : WithBot DateTime) := he
  rw [hexpiry, WithBot.coe_le_iff] at hle
  obtain ⟨e', he', hle⟩ := hle
  have hle : e.timestamp ≤ e'.timestamp := hle
  exact ⟨e', he', by omega⟩

/-- **The filter and the maximum** of the reader select such a lease. -/
lemma selects_maxByKey :
    Selects now leases (maxByKey Lease.expiry (leases.filter fun l => l.Unexpired now)) := by
  cases hmax : maxByKey Lease.expiry (leases.filter fun l => l.Unexpired now) with
  | none =>
    intro l hl hnow
    have hmem : l ∈ leases.filter fun l => l.Unexpired now :=
      List.mem_filter.mpr ⟨hl, decide_eq_true hnow⟩
    rw [maxByKey_eq_none.mp hmax] at hmem
    cases hmem
  | some l =>
    obtain ⟨hmem, hgreatest⟩ := maxByKey_eq_some hmax
    obtain ⟨hl, hnow⟩ := List.mem_filter.mp hmem
    refine ⟨hl, of_decide_eq_true hnow, fun l' hl' hnow' => hgreatest l' ?_⟩
    exact List.mem_filter.mpr ⟨hl', decide_eq_true hnow'⟩

/-- A selection depends on what leases there are, not on their order. -/
lemma selects_congr {leases' : List Lease} (h : ∀ l, l ∈ leases ↔ l ∈ leases')
    {selected : Option Lease} : Selects now leases selected ↔ Selects now leases' selected := by
  cases selected <;> simp only [Selects, h]

/-- A selection among some leases is one among more if each new one that is not expired is
matched by an old one, and only then. -/
lemma selects_append_iff {hidden : List Lease} {selected : Option Lease}
    (h : Selects now leases selected) :
    Selects now (leases ++ hidden) selected ↔
      ∀ l ∈ hidden, l.Unexpired now → ∃ l' ∈ leases, l.expiry ≤ l'.expiry := by
  cases selected with
  | none =>
    constructor
    · intro hall l hl hnow
      exact absurd hnow (hall l (List.mem_append_right _ hl))
    · intro hmatch l hl hnow
      rcases List.mem_append.mp hl with hl | hl
      · exact h l hl hnow
      · obtain ⟨l', hl', hle⟩ := hmatch l hl hnow
        exact h l' hl' (hnow.mono hle)
  | some s =>
    obtain ⟨hs, hsnow, hgreatest⟩ := h
    constructor
    · rintro ⟨-, -, hall⟩ l hl hnow
      exact ⟨s, hs, hall l (List.mem_append_right _ hl) hnow⟩
    · intro hmatch
      refine ⟨List.mem_append_left _ hs, hsnow, fun l hl hnow => ?_⟩
      rcases List.mem_append.mp hl with hl | hl
      · exact hgreatest l hl hnow
      · obtain ⟨l', hl', hle⟩ := hmatch l hl hnow
        exact hle.trans (hgreatest l' hl' (hnow.mono hle))

end Selecting

/-! ## Files with unsupported blocks -/

section Hidden

variable {platform : Platform} {readToString : String → Except String String}
  {files : List (String × FileText platform)} {now : ℤ}

/-- The supported blocks, wherever they stand. -/
def supportedBlocks (blocks : List (Block platform)) : List (LeaseText platform) :=
  blocks.filterMap fun
    | .supported b => some b
    | .unsupported _ => none

/-- The supported blocks are those before the first unsupported one and those behind it. -/
lemma supportedBlocks_eq (blocks : List (Block platform)) :
    supportedBlocks blocks = readable blocks ++ supportedBlocks (unread blocks) := by
  induction blocks with
  | nil => rfl
  | cons block blocks ih =>
    cases block with
    | supported b =>
      show b :: supportedBlocks blocks = b :: (readable blocks ++ supportedBlocks (unread blocks))
      rw [ih]
    | unsupported b => rfl

/-- The leases of all supported blocks. -/
def supportedLeases (files : List (String × FileText platform)) : List Lease :=
  files.flatMap fun f => (supportedBlocks f.2.blocks).map LeaseText.lease

/-- The leases of the blocks before the first unsupported one of their file. -/
def readLeases (files : List (String × FileText platform)) : List Lease :=
  files.flatMap fun f => (readable f.2.blocks).map LeaseText.lease

/-- The leases of the supported blocks behind an unsupported one of their file. -/
def hiddenLeases (files : List (String × FileText platform)) : List Lease :=
  files.flatMap fun f => (supportedBlocks (unread f.2.blocks)).map LeaseText.lease

/-- The files have these contents. -/
def OnDisk (readToString : String → Except String String)
    (files : List (String × FileText platform)) : Prop :=
  ∀ f ∈ files, readToString f.1 = .ok (String.ofList f.2.text)

lemma mem_supportedLeases {l : Lease} :
    l ∈ supportedLeases files ↔ l ∈ readLeases files ++ hiddenLeases files := by
  simp only [supportedLeases, readLeases, hiddenLeases, List.mem_append, List.mem_flatMap]
  rw [← exists_or]
  refine exists_congr fun f => ?_
  rw [supportedBlocks_eq, List.map_append, List.mem_append, and_or_left]

/-- The reader gets the leases of the blocks before the first unsupported one. -/
lemma flatMap_readFile (hdisk : OnDisk readToString files) :
    (files.map Prod.fst).flatMap (readFile platform readToString) = readLeases files := by
  rw [List.flatMap_map, readLeases]
  refine List.flatMap_congr fun f hf => ?_
  obtain ⟨rest, hrun, -⟩ := run_parseLeases f.2
  rw [readFile, hdisk f hf]
  simp only [String.toList_ofList, hrun]

/-- Among the leases that it gets, the reader selects as it should. -/
lemma selects_latest (hdisk : OnDisk readToString files) :
    Selects now (readLeases files)
      (IscDhclientRead.latest platform readToString ⟨files.map Prod.fst⟩ now) := by
  rw [IscDhclientRead.latest, flatMap_readFile hdisk]
  exact selects_maxByKey

/-- A lease that cannot be returned lacks one of the four values. -/
lemma toDhcpLease_eq_none {l : Lease} (h : l.toDhcpLease = none) :
    l.interface = none ∨ l.fixedAddress = none ∨ optionValue l.options "subnet-mask" = none ∨
      optionValue l.options "routers" = none := by
  by_contra hsome
  simp only [not_or, ← ne_eq, Option.ne_none_iff_exists'] at hsome
  obtain ⟨⟨i, hi⟩, ⟨a, ha⟩, ⟨m, hm⟩, r, hr⟩ := hsome
  simp [Lease.toDhcpLease, hi, ha, hm, hr] at h

/-- What is returned of a lease. -/
def Lease.Returns (l : Lease) (r : DhcpLease) : Prop :=
  l.interface = some r.interface ∧ l.fixedAddress = some r.ipAddress ∧
    optionValue l.options "subnet-mask" = some r.subnetMask ∧
    optionValue l.options "routers" = some r.router ∧ r.expired = false

lemma toDhcpLease_eq_some {l : Lease} {r : DhcpLease} :
    l.toDhcpLease = some r ↔ l.Returns r := by
  simp only [Lease.toDhcpLease, Option.pure_def, Option.bind_eq_bind, Option.bind_eq_some_iff,
    Option.some.injEq]
  constructor
  · rintro ⟨i, hi, a, ha, m, hm, g, hg, rfl⟩
    exact ⟨hi, ha, hm, hg, rfl⟩
  · obtain ⟨i, a, m, g, expired⟩ := r
    rintro ⟨hi, ha, hm, hg, rfl⟩
    exact ⟨i, hi, a, ha, m, hm, g, hg, rfl⟩

/-- The reader serves the newest lease of all supported blocks: it returns what that lease says, and
nothing only if there is none or the newest lacks a value. -/
structure ServesNewest (platform : Platform) (readToString : String → Except String String)
    (files : List (String × FileText platform)) (now : ℤ) (reader : IscDhclientRead) : Prop where
  selects : Selects now (supportedLeases files) (reader.latest platform readToString now)
  returns : ∀ r, reader.readDhcpLease platform readToString now = some r ↔
    ∃ l, reader.latest platform readToString now = some l ∧ l.Returns r
  none_only_if : reader.readDhcpLease platform readToString now = none →
    (∀ l ∈ supportedLeases files, ¬ l.Unexpired now) ∨
      ∃ l, reader.latest platform readToString now = some l ∧
        (l.interface = none ∨ l.fixedAddress = none ∨
          optionValue l.options "subnet-mask" = none ∨ optionValue l.options "routers" = none)

/-- **The newest lease is served exactly if** each lease behind an unsupported block that is not
expired is matched by one that is read and expires no earlier. -/
theorem serves_newest_iff (hdisk : OnDisk readToString files) :
    ServesNewest platform readToString files now ⟨files.map Prod.fst⟩ ↔
      ∀ l ∈ hiddenLeases files, l.Unexpired now →
        ∃ l' ∈ readLeases files, l.expiry ≤ l'.expiry := by
  have hselects := @selects_append_iff now (readLeases files) (hiddenLeases files) _
    (selects_latest hdisk)
  rw [← selects_congr fun l => mem_supportedLeases] at hselects
  rw [← hselects]
  refine ⟨fun h => h.selects, fun h => ⟨h, fun r => ?_, fun hnone => ?_⟩⟩
  · simp only [IscDhclientRead.readDhcpLease, Option.bind_eq_some_iff, toDhcpLease_eq_some]
  cases hlatest : IscDhclientRead.latest platform readToString ⟨files.map Prod.fst⟩ now with
  | none =>
    rw [hlatest] at h
    exact Or.inl h
  | some l =>
    rw [IscDhclientRead.readDhcpLease, hlatest] at hnone
    exact Or.inr ⟨l, rfl, toDhcpLease_eq_none hnone⟩

end Hidden

/-! ## A file with an unsupported block -/

variable {platform : Platform}

/-- `filename "x";`, a statement with a word that the parser does not know. -/
def filenameText (platform : Platform) : BadText platform :=
  unknownText platform indented 'f' "ilename \"x\"".toList (by decide) (by decide)
    (by simp [keywords])

/-- `expire never;`, a date that the parser does not know. -/
def neverText (platform : Platform) : BadText platform where
  gap := indented
  first := 'e'
  tail := "xpire never;".toList
  notSpace := by decide
  notEnd := by decide
  rejects rest := by
    have hmem : ("expire", LeaseStmt.expire <$> parseExpire platform) ∈ alternatives platform := by
      simp [alternatives]
    have hdate : (parseDatetime platform).run ("never;".toList ++ rest) = none :=
      run_bind_of_none (run_bind_of_none rfl)
    have hstop : Stops isBlank ("never;".toList ++ rest) :=
      (@stops_cons isBlank _ 'n').mpr (by decide)
    have htext : indented.val ++ 'e' :: "xpire never;".toList ++ rest = indented.val ++
        ("expire".toList ++ (oneBlank.val ++ ("never;".toList ++ rest))) := rfl
    rw [htext, run_parseStmt indented (stops_keyword (by simp [keywords]))]
    refine run_bind_of_none ((run_parseAlternatives_keyword hmem).trans (run_map_of_none ?_))
    rw [parseExpire, parseDated, run_tag_space1 hstop]
    exact hdate

/-- `option domain-search "a.", "b.";`, an option with two values. -/
def searchText (hplatform : platform.Documented) : BadText platform where
  gap := indented
  first := 'o'
  tail := "ption domain-search \"a.\", \"b.\";".toList
  notSpace := by decide
  notEnd := by decide
  rejects rest := by
    have hmem : ("option", (fun kv => LeaseStmt.option kv.1 kv.2) <$> parseOption platform) ∈
        alternatives platform := by
      simp [alternatives]
    have hword : ∀ c ∈ "domain-search".toList, isWord platform '-' c = true := by
      have hascii : ∀ c ∈ "domain-search".toList,
          c.toNat < 128 ∧ (c.isAlphanum || decide (c = '-')) = true := by decide
      intro c hc
      rw [isWord, hplatform.ascii c (hascii c hc).1]
      exact (hascii c hc).2
    have htext : indented.val ++ 'o' :: "ption domain-search \"a.\", \"b.\";".toList ++ rest =
        indented.val ++ ("option".toList ++ (oneBlank.val ++ ("domain-search".toList ++
          ((plainStyle true).afterKey.val ++ (quote "a." ++ (", \"b.\";".toList ++ rest)))))) := rfl
    have hoption : (parseOption platform).run ("option".toList ++ (oneBlank.val ++
        ("domain-search".toList ++ ((plainStyle true).afterKey.val ++ (quote "a." ++
          (", \"b.\";".toList ++ rest)))))) =
        some (("domain-search", "a."), ", \"b.\";".toList ++ rest) := by
      rw [run_parseOption_key hplatform (by decide) hword stops_quote]
      exact run_bind_of_some (run_orElse_of_some (run_parseStringLit_quote
        ⟨by decide, by decide⟩))
    rw [htext, run_parseStmt indented (stops_keyword (by simp [keywords]))]
    -- the first value is read, and the semicolon is looked for at the comma
    refine (run_bind_of_some ((run_parseAlternatives_keyword hmem).trans
      (run_map_of_some hoption))).trans ?_
    exact run_bind_of_none (run_char_of_ne (by decide))

/-- What a lease says with all that a reader needs. -/
structure Offer where
  address : String
  word : address ≠ "" ∧ ∀ c ∈ address.toList, isWord asciiPlatform '.' c = true
  expire : DateTime
  fourDigits : FourDigitYear expire

/-- Its lease. -/
def usableLease (offer : Offer) : PrintedLease where
  lease :=
    { interface := some "wan0", fixedAddress := some offer.address, expire := some offer.expire
      options := [("subnet-mask", "255.255.255.0"), ("routers", "192.168.1.1")] }
  before := lineEnd
  beforeBrace := oneSpace
  stmts :=
    [⟨indented, plainStyle false, .interface "wan0"⟩,
      ⟨indented, plainStyle false, .fixedAddress offer.address⟩,
      ⟨indented, plainStyle false, .option "subnet-mask" "255.255.255.0"⟩,
      ⟨indented, plainStyle false, .option "routers" "192.168.1.1"⟩,
      ⟨indented, plainStyle false, .expire offer.expire⟩]
  beforeEnd := lineEnd

lemma usableLease_valid (offer : Offer) : (usableLease offer).Valid asciiPlatform where
  arranged := by simp [usableLease, Lease.statements]
  printable := by
    simp only [usableLease, List.forall_mem_cons, List.not_mem_nil, false_imp_iff, implies_true,
      and_true]
    refine ⟨⟨by decide, by decide⟩, offer.word, ⟨by decide, by decide, ?_⟩,
      ⟨by decide, by decide, ?_⟩, offer.fourDigits⟩
    · exact ⟨by decide, by decide, by decide, by decide⟩
    · exact ⟨by decide, by decide, by decide, by decide⟩

/-- The lease as a block of a file. -/
def usableBlock (offer : Offer) : Block asciiPlatform :=
  .supported ((usableLease offer).leaseText asciiPlatform_documented (usableLease_valid offer))

/-- What is returned of it. -/
def Offer.returned (offer : Offer) : DhcpLease :=
  ⟨"wan0", offer.address, "255.255.255.0", "192.168.1.1", false⟩

/-- A block with a `filename`. -/
def filenameBlock : Block asciiPlatform :=
  .unsupported ⟨lineEnd, oneSpace, [], filenameText asciiPlatform, ['\n']⟩

/-- A file with a block of the former kind on either side of one with a `filename`. -/
def fileOf (offer offer' : Offer) : FileText asciiPlatform :=
  ⟨[usableBlock offer, filenameBlock, usableBlock offer'], lineEnd⟩

/-- A disk whose files all say the same. -/
def diskOf (file : FileText asciiPlatform) : String → Except String String :=
  fun _ => .ok (String.ofList file.text)

section

variable {offer offer' : Offer} {path : String}

lemma readLeases_fileOf :
    readLeases [(path, fileOf offer offer')] = [(usableLease offer).result] := by
  simp [readLeases, fileOf, usableBlock, filenameBlock, readable, PrintedLease.leaseText_lease]

lemma hiddenLeases_fileOf :
    hiddenLeases [(path, fileOf offer offer')] = [(usableLease offer').result] := by
  simp [hiddenLeases, fileOf, usableBlock, filenameBlock, unread, supportedBlocks,
    PrintedLease.leaseText_lease]

lemma onDisk_fileOf : OnDisk (diskOf (fileOf offer offer')) [(path, fileOf offer offer')] := by
  intro f hf
  rw [List.mem_singleton.mp hf]
  rfl

lemma returns_usableLease : (usableLease offer).result.Returns offer.returned :=
  ⟨rfl, rfl, rfl, rfl, rfl⟩

/-- The reader stops at the `filename`. -/
lemma latest_fileOf (hnow : (usableLease offer).result.Unexpired 0) :
    IscDhclientRead.latest asciiPlatform (diskOf (fileOf offer offer')) ⟨[path]⟩ 0 =
      some (usableLease offer).result := by
  have hselects := @selects_latest asciiPlatform _ [(path, fileOf offer offer')] 0 onDisk_fileOf
  rw [readLeases_fileOf, List.map_singleton] at hselects
  cases hl : IscDhclientRead.latest asciiPlatform (diskOf (fileOf offer offer')) ⟨[path]⟩ 0 with
  | none =>
    rw [hl] at hselects
    exact absurd hnow (hselects _ (List.mem_singleton_self _))
  | some l =>
    rw [hl] at hselects
    rw [List.mem_singleton.mp hselects.1]

lemma readDhcpLease_fileOf (hnow : (usableLease offer).result.Unexpired 0) :
    IscDhclientRead.readDhcpLease asciiPlatform (diskOf (fileOf offer offer')) ⟨[path]⟩ 0 =
      some offer.returned := by
  rw [IscDhclientRead.readDhcpLease, latest_fileOf hnow, Option.bind_some]
  exact toDhcpLease_eq_some.mpr returns_usableLease

end

/-- A lease that expires early today. -/
def nearOffer : Offer :=
  ⟨"192.168.1.104", ⟨by decide, by decide⟩, nearMoment, ⟨by decide, by decide⟩⟩

/-- One that expires later. -/
def laterOffer : Offer :=
  ⟨"192.168.1.105", ⟨by decide, by decide⟩, laterMoment, ⟨by decide, by decide⟩⟩

/-- The older lease of today, the block with a `filename`, and the newer lease. -/
def olderFirst : FileText asciiPlatform := fileOf nearOffer laterOffer

/-- The newer lease of today, the block with a `filename`, and the older lease. -/
def newerFirst : FileText asciiPlatform := fileOf laterOffer nearOffer

/-- **The older lease is served**, and the newer one is not expired. -/
theorem older_lease_is_served :
    IscDhclientRead.readDhcpLease asciiPlatform (diskOf olderFirst) ⟨["dhclient.leases"]⟩ 0 =
        some ⟨"wan0", "192.168.1.104", "255.255.255.0", "192.168.1.1", false⟩ ∧
      (usableLease laterOffer).result ∈ supportedLeases [("dhclient.leases", olderFirst)] ∧
      (usableLease laterOffer).result.Unexpired 0 ∧
      (usableLease nearOffer).result.expiry < (usableLease laterOffer).result.expiry ∧
      (usableLease laterOffer).result.toDhcpLease =
        some ⟨"wan0", "192.168.1.105", "255.255.255.0", "192.168.1.1", false⟩ ∧
      ¬ ServesNewest asciiPlatform (diskOf olderFirst) [("dhclient.leases", olderFirst)] 0
        ⟨["dhclient.leases"]⟩ := by
  have hmem : (usableLease laterOffer).result ∈
      supportedLeases [("dhclient.leases", olderFirst)] := by
    rw [mem_supportedLeases, olderFirst, hiddenLeases_fileOf]
    exact List.mem_append_right _ (List.mem_singleton_self _)
  have hnear : (usableLease nearOffer).result.Unexpired 0 := by decide
  have hlater : (usableLease laterOffer).result.Unexpired 0 := by decide
  have hlt : (usableLease nearOffer).result.expiry < (usableLease laterOffer).result.expiry := by
    have hlt : nearMoment < laterMoment := by decide
    exact WithBot.coe_lt_coe.mpr hlt
  refine ⟨readDhcpLease_fileOf hnear, hmem, hlater, hlt, toDhcpLease_eq_some.mpr
    returns_usableLease, fun hserves => ?_⟩
  have hselects := hserves.selects
  rw [olderFirst, latest_fileOf hnear] at hselects
  obtain ⟨-, -, hgreatest⟩ := hselects
  exact absurd (hgreatest _ hmem hlater) (not_le_of_gt hlt)

/-- With the blocks the other way round the newer lease is served. -/
theorem newer_lease_is_served :
    ServesNewest asciiPlatform (diskOf newerFirst) [("dhclient.leases", newerFirst)] 0
        ⟨["dhclient.leases"]⟩ ∧
      IscDhclientRead.readDhcpLease asciiPlatform (diskOf newerFirst) ⟨["dhclient.leases"]⟩ 0 =
        some ⟨"wan0", "192.168.1.105", "255.255.255.0", "192.168.1.1", false⟩ := by
  refine ⟨(@serves_newest_iff asciiPlatform _ [("dhclient.leases", newerFirst)] 0
    onDisk_fileOf).mpr fun l hl _ => ?_, readDhcpLease_fileOf (by decide)⟩
  rw [newerFirst, hiddenLeases_fileOf] at hl
  refine ⟨(usableLease laterOffer).result, ?_, ?_⟩
  · rw [newerFirst, readLeases_fileOf]
    exact List.mem_singleton_self _
  · rw [List.mem_singleton.mp hl]
    have hle : nearMoment ≤ laterMoment := by decide
    exact WithBot.coe_le_coe.mpr hle

end Dumbarp.IscDhclient
