/-
The ARP probe of a gateway (`probe_gateway_mac` and `probe_with_retry` in
`dumbarp-daemon/src/neigh.rs`).

An attempt sends one request and then receives until a frame is the reply.  The socket has a
receive timeout of two seconds, but each receive starts it anew, and there is no other limit:
frames that are not the reply keep the loop going for as long as they come.  What the system
answers is given by an `Attempt`, the receives as a stream; the loop is run for a number of
receives, and ends if some number is enough.
-/
import Dumbarp.Daemon.Neigh

namespace Dumbarp.Daemon

open Ebpf Engine

/-! ## The code -/

/-- What `recvfrom` brings: a frame, or an error.  A timeout is an error. -/
inductive Received where
  | frame (bytes : Frame)
  | failed (err : String)
deriving DecidableEq, Repr

/-- What the system answers to one attempt. -/
structure Attempt where
  /-- The content of the file with the address of the interface. -/
  address : Except String String
  /-- The content of the file with its index. -/
  ifindex : Except String String
  socket : Except String Unit
  setsockopt : Except String Unit
  bind : Except String Unit
  sendto : Except String Unit
  recvfrom : ℕ → Received
  /-- Whether the thread of the attempt dies. -/
  panics : Bool

/-- One octet of a MAC address, as `parse_mac` of the daemon reads it. -/
def parseMacByte (part : List Char) : Except AnyhowError UInt8 :=
  match fromStrRadix 16 256 part with
  | .ok n => .ok (UInt8.ofNat n)
  | .error e =>
    let text := String.ofList part
    .error [s!"invalid MAC byte: {text}", e.message]

/-- `parse_mac`. -/
def parseMac (s : List Char) : Except AnyhowError Mac :=
  match s.splitOn ':' with
  | [a, b, c, d, e, f] => do
    return ⟨← parseMacByte a, ← parseMacByte b, ← parseMacByte c, ← parseMacByte d,
      ← parseMacByte e, ← parseMacByte f⟩
  | _ =>
    let text := String.ofList s
    .error [s!"invalid MAC: {text}"]

/-- `read_iface_mac`. -/
def readIfaceMac (iface : String) : Except String String → Except AnyhowError Mac
  | .error e => .error [s!"read /sys/class/net/{iface}/address", e]
  | .ok raw => parseMac (trim raw)

/-- `i32::from_str`. -/
def parseI32 : List Char → Except String ℤ
  | ['-'] => .error ParseIntError.invalidDigit.message
  | '-' :: cs =>
    match cs.foldlM (pushDigit 10 (2 ^ 31 + 1)) 0 with
    | .ok n => .ok (-n)
    | .error .posOverflow => .error "number too small to fit in target type"
    | .error e => .error e.message
  | cs =>
    match fromStrRadix 10 (2 ^ 31) cs with
    | .ok n => .ok n
    | .error e => .error e.message

/-- `read_iface_index`. -/
def readIfaceIndex (iface : String) : Except String String → Except AnyhowError ℤ
  | .error e => .error [s!"read /sys/class/net/{iface}/ifindex", e]
  | .ok raw =>
    match parseI32 (trim raw) with
    | .ok n => .ok n
    | .error e => .error ["parse ifindex", e]

/-- Give up on the error of a system call. -/
def orBail (what : String) : Except String Unit → Except AnyhowError Unit
  | .ok () => .ok ()
  | .error e => .error [s!"{what}: {e}"]

/-- The part of `probe_gateway_mac` before its loop: the request that is sent. -/
def sendRequest (iface : String) (srcIp gwIp : Ipv4Addr) (a : Attempt) :
    Except AnyhowError Frame := do
  let srcMac ← readIfaceMac iface a.address
  let _ ← readIfaceIndex iface a.ifindex
  orBail "socket(AF_PACKET)" a.socket
  orBail "setsockopt SO_RCVTIMEO" a.setsockopt
  orBail "bind" a.bind
  orBail "sendto ARP request" a.sendto
  return buildArpRequest srcMac srcIp gwIp

/-- The size of the receive buffer: what is longer is cut off. -/
def bufLen : ℕ := 1024

/-- One turn of the loop: what it returns, if it ends. -/
def receive (srcIp gwIp : Ipv4Addr) : Received → Option (Except AnyhowError Mac)
  | .failed e => some (.error [s!"recvfrom ARP reply: {e}"])
  | .frame bytes =>
    let buf := bytes.take bufLen
    if buf.length < 42 then none else (parseArpReply buf gwIp srcIp).map .ok

/-- The loop over `fuel` receives. -/
def receiveLoop (srcIp gwIp : Ipv4Addr) (recvfrom : ℕ → Received) :
    ℕ → Option (Except AnyhowError Mac)
  | 0 => none
  | fuel + 1 =>
    match receive srcIp gwIp (recvfrom 0) with
    | some res => some res
    | none => receiveLoop srcIp gwIp (fun i => recvfrom (i + 1)) fuel

/-- `probe_gateway_mac`. -/
def probeGatewayMac (iface : String) (srcIp gwIp : Ipv4Addr) (a : Attempt) (fuel : ℕ) :
    Option (Except AnyhowError Mac) :=
  match sendRequest iface srcIp gwIp a with
  | .error e => some (.error e)
  | .ok _ => receiveLoop srcIp gwIp a.recvfrom fuel

/-- The attempts that are left of `probe_with_retry`, with the requests they send. -/
def retryLoop (iface : String) (srcIp gwIp : Ipv4Addr) (fuel : ℕ) :
    ℕ → (ℕ → Attempt) → Option (List Frame × Except AnyhowError Mac)
  | 0, _ =>
    let gw := gwIp.toString
    some ([], .error [s!"all ARP probe attempts failed for {gw} on {iface}"])
  | left + 1, attempts =>
    let a := attempts 0
    let sent := (sendRequest iface srcIp gwIp a).toOption.toList
    if a.panics then some (sent, .error ["spawn_blocking panicked"])
    else
      match probeGatewayMac iface srcIp gwIp a fuel with
      | none => none
      | some (.ok mac) => some (sent, .ok mac)
      | some (.error _) =>
        (retryLoop iface srcIp gwIp fuel left fun k => attempts (k + 1)).map fun (more, res) =>
          (sent ++ more, res)

/-- `probe_with_retry`: three attempts. -/
def probeWithRetry (iface : String) (srcIp gwIp : Ipv4Addr) (attempts : ℕ → Attempt) (fuel : ℕ) :
    Option (List Frame × Except AnyhowError Mac) :=
  retryLoop iface srcIp gwIp fuel 3 attempts

/-! ## When the loop ends -/

/-- The reply that is waited for, as a frame on the wire. -/
structure IsReplyFor (srcIp gwIp : Ipv4Addr) (frame : Frame) : Prop where
  length : ethHdrLen + arpHdrLen ≤ frame.length
  etherType : etherType frame = 0x0806
  oper : (arpHdrAt frame ethHdrLen).oper = arpopReply
  spa : (arpHdrAt frame ethHdrLen).spa = gwIp
  tpa : (arpHdrAt frame ethHdrLen).tpa = srcIp

/-- A receive after which the loop does not go on: an error, a timeout, or the reply. -/
def Received.Ends (srcIp gwIp : Ipv4Addr) : Received → Prop
  | .failed _ => True
  | .frame bytes => IsReplyFor srcIp gwIp bytes

/-- Bytes that are not cut off are read as they came. -/
lemma byteAt_take {frame : Frame} {n i : ℕ} (h : i < n) :
    byteAt (frame.take n) i = byteAt frame i := by
  rw [byteAt, byteAt, List.getD_eq_getElem?_getD, List.getElem?_take_of_lt h,
    List.getD_eq_getElem?_getD]

lemma arpHdrAt_take (frame : Frame) :
    etherType (frame.take bufLen) = etherType frame ∧
      arpHdrAt (frame.take bufLen) ethHdrLen = arpHdrAt frame ethHdrLen := by
  have hbyte : ∀ i < 42, byteAt (frame.take bufLen) i = byteAt frame i :=
    fun i hi => byteAt_take (hi.trans (by decide))
  simp [etherType, arpHdrAt, wordAt, macAt, addrAt, ethHdrLen, hbyte]

/-- A turn is the last one exactly for an error or the reply. -/
lemma receive_isSome_iff {srcIp gwIp : Ipv4Addr} {r : Received} :
    (receive srcIp gwIp r).isSome ↔ r.Ends srcIp gwIp := by
  cases r with
  | failed e => simp [receive, Received.Ends]
  | frame bytes =>
    obtain ⟨htype, harp⟩ := arpHdrAt_take bytes
    have hlen : ethHdrLen + arpHdrLen ≤ (bytes.take bufLen).length ↔
        ethHdrLen + arpHdrLen ≤ bytes.length := by
      rw [List.length_take, le_min_iff]
      exact and_iff_right (by decide)
    have hparse : (parseArpReply (bytes.take bufLen) gwIp srcIp).isSome ↔
        IsReplyFor srcIp gwIp bytes := by
      rw [Option.isSome_iff_exists]
      simp only [parseArpReply_eq_some_iff, htype, harp, hlen]
      constructor
      · rintro ⟨mac, hlen, htype, hoper, hspa, htpa, -⟩
        exact ⟨hlen, htype, hoper, hspa, htpa⟩
      · rintro ⟨hlen, htype, hoper, hspa, htpa⟩
        exact ⟨_, hlen, htype, hoper, hspa, htpa, rfl⟩
    show (if (bytes.take bufLen).length < 42 then none
      else (parseArpReply (bytes.take bufLen) gwIp srcIp).map Except.ok).isSome ↔
        IsReplyFor srcIp gwIp bytes
    by_cases hshort : (bytes.take bufLen).length < 42
    · rw [if_pos hshort]
      exact iff_of_false (by simp) fun h => Nat.not_lt.mpr (hlen.mpr h.length) hshort
    · rw [if_neg hshort, Option.isSome_map]
      exact hparse

/-- The MAC address that a turn returns was read from what it received. -/
lemma receive_mac {srcIp gwIp : Ipv4Addr} {r : Received} {mac : Mac}
    (h : receive srcIp gwIp r = some (.ok mac)) :
    ∃ bytes, r = .frame bytes ∧ parseArpReply (bytes.take bufLen) gwIp srcIp = some mac := by
  cases r with
  | failed e => cases h
  | frame bytes =>
    rw [receive] at h
    split at h
    · cases h
    · obtain ⟨mac', hmac, heq⟩ := Option.map_eq_some_iff.mp h
      cases heq
      exact ⟨bytes, rfl, hmac⟩

/-- A turn that gives up received an error. -/
lemma receive_error {srcIp gwIp : Ipv4Addr} {r : Received} {e : AnyhowError}
    (h : receive srcIp gwIp r = some (.error e)) : ∃ err, r = .failed err := by
  cases r with
  | failed err => exact ⟨err, rfl⟩
  | frame bytes =>
    rw [receive] at h
    split at h
    · cases h
    · obtain ⟨mac, -, heq⟩ := Option.map_eq_some_iff.mp h
      cases heq

section Loop

variable {srcIp gwIp : Ipv4Addr}

/-- **The loop returns at the first receive that ends it.** -/
lemma receiveLoop_eq_some_iff {fuel : ℕ} {recvfrom : ℕ → Received}
    {res : Except AnyhowError Mac} :
    receiveLoop srcIp gwIp recvfrom fuel = some res ↔
      ∃ i < fuel, receive srcIp gwIp (recvfrom i) = some res ∧
        ∀ j < i, receive srcIp gwIp (recvfrom j) = none := by
  induction fuel generalizing recvfrom with
  | zero => simp [receiveLoop]
  | succ fuel ih =>
    rw [receiveLoop]
    cases hfirst : receive srcIp gwIp (recvfrom 0) with
    | some res' =>
      constructor
      · intro h
        exact ⟨0, Nat.succ_pos _, hfirst.trans h, fun j hj => absurd hj (Nat.not_lt_zero j)⟩
      · rintro ⟨i, -, hi, hbefore⟩
        obtain rfl : i = 0 := by
          by_contra hne
          rw [hbefore 0 (Nat.pos_of_ne_zero hne)] at hfirst
          cases hfirst
        exact hfirst.symm.trans hi
    | none =>
      show receiveLoop srcIp gwIp (fun i => recvfrom (i + 1)) fuel = some res ↔ _
      rw [ih]
      constructor
      · rintro ⟨i, hi, hres, hbefore⟩
        refine ⟨i + 1, Nat.succ_lt_succ hi, hres, fun j hj => ?_⟩
        cases j with
        | zero => exact hfirst
        | succ j => exact hbefore j (Nat.lt_of_succ_lt_succ hj)
      · rintro ⟨i, hi, hres, hbefore⟩
        cases i with
        | zero =>
          rw [hfirst] at hres
          cases hres
        | succ i =>
          exact ⟨i, Nat.lt_of_succ_lt_succ hi, hres, fun j hj => hbefore _ (Nat.succ_lt_succ hj)⟩

/-- The loop ends exactly if some receive ends it. -/
lemma receiveLoop_ends_iff {recvfrom : ℕ → Received} :
    (∃ fuel res, receiveLoop srcIp gwIp recvfrom fuel = some res) ↔
      ∃ i, (recvfrom i).Ends srcIp gwIp := by
  simp only [receiveLoop_eq_some_iff, ← receive_isSome_iff]
  constructor
  · rintro ⟨fuel, res, i, -, hres, -⟩
    exact ⟨i, by rw [hres]; rfl⟩
  · intro h
    classical
    obtain ⟨res, hres⟩ := Option.isSome_iff_exists.mp (Nat.find_spec h)
    refine ⟨_, res, Nat.find h, Nat.lt_succ_self _, hres, fun j hj => ?_⟩
    exact Option.not_isSome_iff_eq_none.mp (Nat.find_min h hj)

/-- More receives than the loop needs do not matter. -/
lemma receiveLoop_mono {recvfrom : ℕ → Received} {fuel fuel' : ℕ} (hle : fuel ≤ fuel')
    {res : Except AnyhowError Mac} (h : receiveLoop srcIp gwIp recvfrom fuel = some res) :
    receiveLoop srcIp gwIp recvfrom fuel' = some res := by
  obtain ⟨i, hi, hres⟩ := receiveLoop_eq_some_iff.mp h
  exact receiveLoop_eq_some_iff.mpr ⟨i, hi.trans_le hle, hres⟩

end Loop

section Probe

variable {iface : String} {srcIp gwIp : Ipv4Addr}

/-- An attempt ends exactly if its request is not sent or a receive ends its loop. -/
lemma probeGatewayMac_ends_iff {a : Attempt} :
    (∃ fuel res, probeGatewayMac iface srcIp gwIp a fuel = some res) ↔
      ∀ frame, sendRequest iface srcIp gwIp a = .ok frame →
        ∃ i, (a.recvfrom i).Ends srcIp gwIp := by
  simp only [probeGatewayMac]
  cases hsend : sendRequest iface srcIp gwIp a with
  | error e => simp
  | ok frame =>
    simp only [Except.ok.injEq, forall_eq']
    exact receiveLoop_ends_iff

lemma probeGatewayMac_mono {a : Attempt} {fuel fuel' : ℕ} (hle : fuel ≤ fuel')
    {res : Except AnyhowError Mac} (h : probeGatewayMac iface srcIp gwIp a fuel = some res) :
    probeGatewayMac iface srcIp gwIp a fuel' = some res := by
  rw [probeGatewayMac] at h ⊢
  split at h
  · exact h
  · exact receiveLoop_mono hle h

/-- A MAC address that an attempt returns stood in a frame that was accepted as the reply. -/
lemma probeGatewayMac_mac {a : Attempt} {fuel : ℕ} {mac : Mac}
    (h : probeGatewayMac iface srcIp gwIp a fuel = some (.ok mac)) :
    ∃ i bytes, a.recvfrom i = .frame bytes ∧
      parseArpReply (bytes.take bufLen) gwIp srcIp = some mac := by
  rw [probeGatewayMac] at h
  split at h
  · cases h
  · obtain ⟨i, -, hres, -⟩ := receiveLoop_eq_some_iff.mp h
    exact ⟨i, receive_mac hres⟩

/-- An attempt that lives to bring no MAC address. -/
def Attempt.Fails (iface : String) (srcIp gwIp : Ipv4Addr) (a : Attempt) : Prop :=
  a.panics = false ∧ ∃ fuel e, probeGatewayMac iface srcIp gwIp a fuel = some (.error e)

/-- Attempts fail whose request is not sent, or for which an error comes before any reply. -/
lemma fails_iff {a : Attempt} : a.Fails iface srcIp gwIp ↔ a.panics = false ∧
    ∀ frame, sendRequest iface srcIp gwIp a = .ok frame →
      ∃ i e, a.recvfrom i = .failed e ∧ ∀ j < i, ¬ (a.recvfrom j).Ends srcIp gwIp := by
  refine and_congr_right fun _ => ?_
  simp only [probeGatewayMac]
  cases hsend : sendRequest iface srcIp gwIp a with
  | error e => simp
  | ok frame =>
    simp only [Except.ok.injEq, forall_eq', receiveLoop_eq_some_iff, ← receive_isSome_iff,
      Option.not_isSome_iff_eq_none]
    constructor
    · rintro ⟨fuel, e, i, -, hres, hbefore⟩
      obtain ⟨err, herr⟩ := receive_error hres
      exact ⟨i, err, herr, hbefore⟩
    · rintro ⟨i, e, he, hbefore⟩
      exact ⟨i + 1, _, i, Nat.lt_succ_self i, by rw [he]; rfl, hbefore⟩

/-- If each attempt ends that is made, so do the attempts together. -/
lemma retryLoop_ends : ∀ (left : ℕ) {attempts : ℕ → Attempt},
    (∀ k < left, (∀ j < k, (attempts j).Fails iface srcIp gwIp) → (attempts k).panics = false →
      ∃ fuel res, probeGatewayMac iface srcIp gwIp (attempts k) fuel = some res) →
      ∃ fuel out, ∀ fuel' ≥ fuel, retryLoop iface srcIp gwIp fuel' left attempts = some out
  | 0, _, _ => ⟨0, _, fun _ _ => rfl⟩
  | left + 1, attempts, h => by
    let sent := (sendRequest iface srcIp gwIp (attempts 0)).toOption.toList
    by_cases hpanics : (attempts 0).panics
    · exact ⟨0, _, fun fuel _ => by rw [retryLoop, if_pos hpanics]⟩
    · obtain ⟨fuel₁, res, hres⟩ := h 0 (Nat.succ_pos _) nofun (by simpa using hpanics)
      cases res with
      | ok mac =>
        refine ⟨fuel₁, (sent, .ok mac), fun fuel hle => ?_⟩
        rw [retryLoop, if_neg hpanics, probeGatewayMac_mono hle hres]
      | error e =>
        -- the attempts behind it are made, since this one failed
        have hfails : (attempts 0).Fails iface srcIp gwIp :=
          ⟨by simpa using hpanics, fuel₁, e, hres⟩
        obtain ⟨fuel₂, ⟨more, last⟩, hrest⟩ := retryLoop_ends left
          (fun k hk hbefore => h (k + 1) (Nat.succ_lt_succ hk) fun j hj => by
            cases j with
            | zero => exact hfails
            | succ j => exact hbefore j (Nat.lt_of_succ_lt_succ hj))
        refine ⟨max fuel₁ fuel₂, (sent ++ more, last), fun fuel hle => ?_⟩
        rw [retryLoop, if_neg hpanics, probeGatewayMac_mono ((le_max_left _ _).trans hle) hres]
        simp only [hrest fuel ((le_max_right _ _).trans hle)]
        rfl

/-- Attempts that send their requests and bring no MAC address are all made. -/
lemma retryLoop_sends : ∀ (left : ℕ) {attempts : ℕ → Attempt} {fuel : ℕ} {sent : List Frame}
    {res : Except AnyhowError Mac},
    retryLoop iface srcIp gwIp fuel left attempts = some (sent, res) →
      (∀ k < left, (attempts k).panics = false ∧
        ∃ frame, sendRequest iface srcIp gwIp (attempts k) = .ok frame) →
      (∀ mac, res ≠ .ok mac) → sent.length = left
  | 0, _, _, _, _, h, _, _ => by cases h; rfl
  | left + 1, attempts, fuel, sent, res, h, hsend, hres => by
    obtain ⟨hpanics, frame, hframe⟩ := hsend 0 (Nat.succ_pos _)
    rw [retryLoop, hpanics, if_neg Bool.false_ne_true] at h
    split at h
    · cases h
    · cases h
      exact absurd rfl (hres _)
    · obtain ⟨⟨more, last⟩, hmore, heq⟩ := Option.map_eq_some_iff.mp h
      cases heq
      have ih : more.length = left := retryLoop_sends left hmore
        (fun k hk => hsend (k + 1) (Nat.succ_lt_succ hk)) hres
      simp [hframe, Except.toOption, ih]

/-- The attempts that are made: three at most, each after others that have failed. -/
def Made (iface : String) (srcIp gwIp : Ipv4Addr) (attempts : ℕ → Attempt) (k : ℕ) : Prop :=
  k < 3 ∧ ∀ j < k, (attempts j).Fails iface srcIp gwIp

/-- Every attempt that is made ends, with an accepted reply or an error unless its thread dies, and
so the probe returns; it has sent its three requests unless one brought the reply or could not be
sent. -/
structure ProbeEnds (iface : String) (srcIp gwIp : Ipv4Addr) (attempts : ℕ → Attempt) : Prop where
  attempt : ∀ k, Made iface srcIp gwIp attempts k → (attempts k).panics = false → ∃ fuel res,
    probeGatewayMac iface srcIp gwIp (attempts k) fuel = some res ∧
      ∀ mac, res = .ok mac → ∃ i bytes, (attempts k).recvfrom i = .frame bytes ∧
        parseArpReply (bytes.take bufLen) gwIp srcIp = some mac
  retry : ∃ fuel sent res, probeWithRetry iface srcIp gwIp attempts fuel = some (sent, res) ∧
    ((∀ k < 3, (attempts k).panics = false ∧
        ∃ frame, sendRequest iface srcIp gwIp (attempts k) = .ok frame) →
      (∀ mac, res ≠ .ok mac) → sent.length = 3)

/-- **The attempts of a probe end exactly if none of them waits through endless other traffic**:
each that is made, that is, all before it had an error before any reply or could not send their
requests, and that sends its request must at some time receive the reply, or nothing for two
seconds, or another error. -/
theorem probe_ends_iff {attempts : ℕ → Attempt} :
    ProbeEnds iface srcIp gwIp attempts ↔
      ∀ k < 3, (∀ j < k, (attempts j).panics = false ∧
          ∀ frame, sendRequest iface srcIp gwIp (attempts j) = .ok frame →
            ∃ i e, (attempts j).recvfrom i = .failed e ∧
              ∀ i' < i, ¬ ((attempts j).recvfrom i').Ends srcIp gwIp) →
        (attempts k).panics = false →
          ∀ frame, sendRequest iface srcIp gwIp (attempts k) = .ok frame →
            ∃ i, ((attempts k).recvfrom i).Ends srcIp gwIp := by
  simp only [← fails_iff]
  constructor
  · intro h k hk hbefore hpanics
    obtain ⟨fuel, res, hres, -⟩ := h.attempt k ⟨hk, hbefore⟩ hpanics
    exact probeGatewayMac_ends_iff.mp ⟨fuel, res, hres⟩
  · intro h
    have hends (k : ℕ) (hk : k < 3) (hbefore : ∀ j < k, (attempts j).Fails iface srcIp gwIp)
        (hpanics : (attempts k).panics = false) :
        ∃ fuel res, probeGatewayMac iface srcIp gwIp (attempts k) fuel = some res :=
      probeGatewayMac_ends_iff.mpr (h k hk hbefore hpanics)
    constructor
    · rintro k ⟨hk, hbefore⟩ hpanics
      obtain ⟨fuel, res, hres⟩ := hends k hk hbefore hpanics
      exact ⟨fuel, res, hres, fun mac hmac => probeGatewayMac_mac (hmac ▸ hres)⟩
    · obtain ⟨fuel, ⟨sent, res⟩, hout⟩ := retryLoop_ends 3 hends
      exact ⟨fuel, sent, res, hout fuel le_rfl, retryLoop_sends 3 (hout fuel le_rfl)⟩

end Probe

/-- An attempt whose request goes out, and which then receives requests of another host only. -/
def drowned : Attempt where
  address := .ok "02:00:00:00:00:01"
  ifindex := .ok "3"
  socket := .ok ()
  setsockopt := .ok ()
  bind := .ok ()
  sendto := .ok ()
  recvfrom _ := .frame (buildArpRequest ⟨2, 0, 0, 0, 0, 9⟩ ⟨110, 0, 0, 9⟩ ⟨110, 0, 0, 8⟩)
  panics := false

/-- **Other traffic keeps an attempt from ending.** -/
theorem drowned_attempt_never_ends :
    ¬ ∀ (iface : String) (srcIp gwIp : Ipv4Addr) (attempts : ℕ → Attempt),
      ProbeEnds iface srcIp gwIp attempts := by
  intro hall
  obtain ⟨fuel, res, hres, -⟩ :=
    (hall "eth0" ⟨110, 0, 0, 1⟩ ⟨110, 0, 0, 2⟩ fun _ => drowned).attempt 0 ⟨by decide, nofun⟩ rfl
  have hsend : sendRequest "eth0" ⟨110, 0, 0, 1⟩ ⟨110, 0, 0, 2⟩ drowned =
      .ok (buildArpRequest ⟨2, 0, 0, 0, 0, 1⟩ ⟨110, 0, 0, 1⟩ ⟨110, 0, 0, 2⟩) := by rfl
  obtain ⟨i, hi⟩ := probeGatewayMac_ends_iff.mp ⟨fuel, res, hres⟩ _ hsend
  exact absurd hi.oper (by decide)

end Dumbarp.Daemon
