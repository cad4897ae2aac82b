/-
The engine of `dumbarpd` (`dumbarp/src/lib.rs`), as programs of its requests.

The engine attaches the two eBPF programs to an interface, fills the three maps they read,
and remembers in `attached` what it did.  A request reads a file under `/sys`, attaches or
detaches a program, or inserts into or removes from a map; each may fail.  The programs and
maps themselves were found when the engine was loaded, so looking them up by name is left out.
-/
import Dumbarp.Ebpf.Frame
import Dumbarp.Lib.HashMap
import Dumbarp.Lib.Interact

namespace Dumbarp.Engine

open Interact Interact.Prog Ebpf

/-- An `anyhow::Error`: its messages, the outermost context first. -/
abbrev AnyhowError : Type := List String

/-! ## What is read of an interface -/

/-- `ParseIntError`. -/
inductive ParseIntError
  | empty
  | invalidDigit
  | posOverflow
deriving DecidableEq, Repr

def ParseIntError.message : ParseIntError → String
  | empty => "cannot parse integer from empty string"
  | invalidDigit => "invalid digit found in string"
  | posOverflow => "number too large to fit in target type"

/-- `char::to_digit`. -/
def toDigit (radix : ℕ) (c : Char) : Option ℕ :=
  let d :=
    if '0' ≤ c ∧ c ≤ '9' then c.toNat - '0'.toNat
    else if 'a' ≤ c ∧ c ≤ 'z' then c.toNat - 'a'.toNat + 10
    else if 'A' ≤ c ∧ c ≤ 'Z' then c.toNat - 'A'.toNat + 10
    else radix
  if d < radix then some d else none

/-- One turn of the loop of `from_str_radix` for numbers below `bound`. -/
def pushDigit (radix bound n : ℕ) (c : Char) : Except ParseIntError ℕ :=
  match toDigit radix c with
  | none => .error .invalidDigit
  | some d => if n * radix + d < bound then .ok (n * radix + d) else .error .posOverflow

/-- `from_str_radix` for an unsigned type of `bound` values. -/
def fromStrRadix (radix bound : ℕ) (cs : List Char) : Except ParseIntError ℕ :=
  match cs with
  | [] => .error .empty
  | ['+'] => .error .invalidDigit
  | '+' :: cs => cs.foldlM (pushDigit radix bound) 0
  | cs => cs.foldlM (pushDigit radix bound) 0

/-- `char::is_whitespace`. -/
def isWhitespace (c : Char) : Bool :=
  let n := c.toNat
  (9 ≤ n && n ≤ 13) || n == 0x20 || n == 0x85 || n == 0xA0 || n == 0x1680 ||
    (0x2000 ≤ n && n ≤ 0x200A) || n == 0x2028 || n == 0x2029 || n == 0x202F || n == 0x205F ||
    n == 0x3000

/-- `str::trim`. -/
def trim (s : String) : List Char :=
  ((s.toList.dropWhile isWhitespace).reverse.dropWhile isWhitespace).reverse

/-- One octet of a MAC address. -/
def parseMacOctet (part : List Char) : Except AnyhowError UInt8 :=
  match fromStrRadix 16 256 part with
  | .ok n => .ok (UInt8.ofNat n)
  | .error e =>
    let text := String.ofList part
    .error [s!"parsing MAC octet `{text}`", e.message]

/-- `parse_mac`. -/
def parseMac (macStr : List Char) : Except AnyhowError Mac :=
  match macStr.splitOn ':' with
  | [a, b, c, d, e, f] => do
    return ⟨← parseMacOctet a, ← parseMacOctet b, ← parseMacOctet c, ← parseMacOctet d,
      ← parseMacOctet e, ← parseMacOctet f⟩
  | _ =>
    let text := String.ofList macStr
    .error [s!"invalid MAC address format: {text}"]

/-- The number in a file under `/sys`; `what` it is and its path are for the error. -/
def parseNumber (what path content : String) : Except AnyhowError UInt32 :=
  match fromStrRadix 10 (2 ^ 32) (trim content) with
  | .ok n => .ok (UInt32.ofNat n)
  | .error e => .error [s!"parsing {what} from {path}", e.message]

def addressPath (iface : String) : String := s!"/sys/class/net/{iface}/address"

def ifindexPath (iface : String) : String := s!"/sys/class/net/{iface}/ifindex"

def typePath (iface : String) : String := s!"/sys/class/net/{iface}/type"

/-- `ARPHRD_ETHER`. -/
def arphrdEther : UInt32 := 1

/-- `ETH_HLEN`. -/
def ethHlen : UInt8 := 14

/-! ## Requests -/

/-- The number of a link between a program and an interface. -/
abbrev LinkId : Type := ℕ

/-- The two maps that are keyed by interface: `DSCP_ID` and `L2_LEN`. -/
inductive IfaceMap
  | dscpId
  | l2Len
deriving DecidableEq, Repr

/-- What the engine asks of the system. -/
inductive EngineOp
  | readSys (path : String)
  | attachXdp (iface : String)
  | detachXdp (link : LinkId)
  | arpInsert (key : ArpKey) (mac : Mac)
  | arpRemove (key : ArpKey)
  | ifaceInsert (map : IfaceMap) (ifindex : UInt32) (value : UInt8)
  | ifaceRemove (map : IfaceMap) (ifindex : UInt32)
  | addClsact (iface : String)
  | attachTc (iface : String)
  | detachTc (link : LinkId)
deriving DecidableEq

/-- What the system answers. -/
@[reducible] def EngineOp.Res : EngineOp → Type
  | .readSys _ => Except AnyhowError String
  | .attachXdp _ => Except AnyhowError LinkId
  | .attachTc _ => Except AnyhowError LinkId
  | .detachXdp _ => Except AnyhowError Unit
  | .detachTc _ => Except AnyhowError Unit
  | .arpInsert _ _ => Except AnyhowError Unit
  | .arpRemove _ => Except AnyhowError Unit
  | .ifaceInsert _ _ _ => Except AnyhowError Unit
  | .ifaceRemove _ _ => Except AnyhowError Unit
  | .addClsact _ => Except AnyhowError Unit

abbrev EngineEvent : Type := Event EngineOp EngineOp.Res

/-- The programs of the engine. -/
abbrev Syscalls (α : Type) : Type := Prog EngineOp EngineOp.Res α

def readSys (path : String) : Syscalls (Except AnyhowError String) :=
  request (EngineOp.readSys path)

def attachXdp (iface : String) : Syscalls (Except AnyhowError LinkId) :=
  request (EngineOp.attachXdp iface)

def arpInsert (key : ArpKey) (mac : Mac) : Syscalls (Except AnyhowError Unit) :=
  request (EngineOp.arpInsert key mac)

def ifaceInsert (map : IfaceMap) (ifindex : UInt32) (value : UInt8) :
    Syscalls (Except AnyhowError Unit) :=
  request (EngineOp.ifaceInsert map ifindex value)

def ifaceRemove (map : IfaceMap) (ifindex : UInt32) : Syscalls (Except AnyhowError Unit) :=
  request (EngineOp.ifaceRemove map ifindex)

def addClsact (iface : String) : Syscalls (Except AnyhowError Unit) :=
  request (EngineOp.addClsact iface)

def attachTc (iface : String) : Syscalls (Except AnyhowError LinkId) :=
  request (EngineOp.attachTc iface)

def detachTc (link : LinkId) : Syscalls (Except AnyhowError Unit) :=
  request (EngineOp.detachTc link)

/-! ## The functions of the engine -/

/-- What the engine remembers of an interface (`Attached`). -/
structure Attached where
  linkId : LinkId
  tcLinkId : Option LinkId
  key : ArpKey
  ifindex : UInt32
deriving DecidableEq, Repr

abbrev Attachments : Type := HashMap String Attached

/-- `iface_mac`. -/
def ifaceMac (iface : String) : Syscalls (Except AnyhowError Mac) := do
  let path := addressPath iface
  match ← readSys path with
  | .error e => return .error (s!"reading {path}" :: e)
  | .ok s => return parseMac (trim s)

/-- `iface_ifindex`. -/
def ifaceIfindex (iface : String) : Syscalls (Except AnyhowError UInt32) := do
  let path := ifindexPath iface
  match ← readSys path with
  | .error e => return .error (s!"reading {path}" :: e)
  | .ok s => return parseNumber "ifindex" path s

/-- `iface_l2_len`: a link without a link-layer header has the IP header at offset 0. -/
def ifaceL2Len (iface : String) : Syscalls (Except AnyhowError UInt8) := do
  let path := typePath iface
  match ← readSys path with
  | .error e => return .error (s!"reading {path}" :: e)
  | .ok s =>
    match parseNumber "link type" path s with
    | .error e => return .error e
    | .ok arphrd => return .ok (if arphrd = arphrdEther then ethHlen else 0)

/-- `detach_xdp`: a failure is ignored. -/
def detachXdp (linkId : LinkId) : Syscalls Unit := do
  let _ ← request (EngineOp.detachXdp linkId)
  return ()

/-- `clear_arp_entry`. -/
def clearArpEntry (key : ArpKey) : Syscalls Unit := do
  let _ ← request (EngineOp.arpRemove key)
  return ()

/-- `clear_iface_maps`. -/
def clearIfaceMaps (ifindex : UInt32) : Syscalls Unit :=
  forEach (fun map => (ifaceRemove map ifindex).bind fun _ => ret ()) [.dscpId, .l2Len]

/-- `attach_egress`.  What it did before an error is left to the caller to undo. -/
def attachEgress (iface : String) (ifindex : UInt32) (dscpId : UInt8) :
    Syscalls (Except AnyhowError LinkId) := do
  match ← ifaceInsert .dscpId ifindex dscpId with
  | .error e => return .error ("inserting DSCP_ID entry" :: e)
  | .ok _ =>
    match ← ifaceL2Len iface with
    | .error e => return .error e
    | .ok len =>
      match ← ifaceInsert .l2Len ifindex len with
      | .error e => return .error ("inserting L2_LEN entry" :: e)
      | .ok _ =>
        -- the qdisc may be there already
        let _ ← addClsact iface
        match ← attachTc iface with
        | .error e => return .error (s!"attaching TC egress to `{iface}`" :: e)
        | .ok link => return .ok link

/-- The egress program is attached only with an id. -/
def attachEgressIf (iface : String) (ifindex : UInt32) (dscpId : Option UInt8) :
    Syscalls (Except AnyhowError (Option LinkId)) :=
  match dscpId with
  | none => return .ok none
  | some id => do
    match ← attachEgress iface ifindex id with
    | .error e => return .error e
    | .ok link => return .ok (some link)

/-- The key of an interface and its address.  The octets are read in the order of the host, as
the programs read them from a packet. -/
def arpKeyFor (ifindex : UInt32) (ip : Ipv4Addr) : ArpKey := ⟨ifindex, fromNeBytes ip⟩

/-- What `add_interface` does once the XDP program is attached. -/
def fillMaps (attached : Attachments) (iface : String) (ip : Ipv4Addr) (dscpId : Option UInt8)
    (mac : Mac) (ifindex : UInt32) (linkId : LinkId) :
    Syscalls (Except AnyhowError Unit × Attachments) := do
  let key := arpKeyFor ifindex ip
  match ← arpInsert key mac with
  | .error e =>
    detachXdp linkId
    return (.error ("inserting ARP_TABLE entry" :: e), attached)
  | .ok _ =>
    match ← attachEgressIf iface ifindex dscpId with
    | .error e =>
      clearArpEntry key
      clearIfaceMaps ifindex
      detachXdp linkId
      return (.error e, attached)
    | .ok tcLinkId => return (.ok (), attached.insert iface { linkId, tcLinkId, key, ifindex })

/-- `Dumbarp::add_interface`: the result and the attachments it leaves. -/
def addInterface (attached : Attachments) (iface : String) (ip : Ipv4Addr)
    (dscpId : Option UInt8) : Syscalls (Except AnyhowError Unit × Attachments) :=
  if iface ∈ attached then return (.error [s!"interface `{iface}` already attached"], attached)
  else do
    match ← ifaceMac iface with
    | .error e => return (.error e, attached)
    | .ok mac =>
      match ← ifaceIfindex iface with
      | .error e => return (.error e, attached)
      | .ok ifindex =>
        match ← attachXdp iface with
        | .error e => return (.error (s!"attaching XDP to `{iface}`" :: e), attached)
        | .ok linkId => fillMaps attached iface ip dscpId mac ifindex linkId

/-- Detach the egress program, if there is one, and drop what it reads. -/
def detachEgress (tcLinkId : Option LinkId) (ifindex : UInt32) : Syscalls Unit :=
  match tcLinkId with
  | none => return ()
  | some link => do
    let _ ← detachTc link
    clearIfaceMaps ifindex

/-- `Dumbarp::remove_interface`.  The interface is forgotten whatever follows. -/
def removeInterface (attached : Attachments) (iface : String) :
    Syscalls (Except AnyhowError Unit × Attachments) :=
  match attached.lookup iface with
  | none => return (.error [s!"interface `{iface}` not attached"], attached)
  | some a => do
    detachEgress a.tcLinkId a.ifindex
    clearArpEntry a.key
    match ← request (EngineOp.detachXdp a.linkId) with
    | .error e => return (.error (s!"detaching XDP from `{iface}`" :: e), attached.erase iface)
    | .ok _ => return (.ok (), attached.erase iface)

end Dumbarp.Engine
