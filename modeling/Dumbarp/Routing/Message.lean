/-
Netlink messages for policy rules and routes, and how dumbarp reads and writes them.

The bottom of the model of `dumbarp-routing`: the messages of `netlink-packet-route` as far
as the crate looks at them, the four requests that `RouteManager` builds, and the two
functions that pick dumbarp's own objects out of a dump.  An attribute that the crate never
looks at is `other`.
-/
import Dumbarp.Net.Ipv4

namespace Dumbarp.Routing

/-- The protocol number on every route dumbarp installs. -/
def dumbarpProto : UInt8 := 0x9A

/-- The priority of every rule dumbarp installs. -/
def dumbarpPriority : UInt32 := 9876

/-- The mask of a rule that compares the whole mark. -/
def fwmaskExact : UInt32 := 0xFFFF_FFFF

inductive AddressFamily
  | unspec
  | inet
  | inet6
  | other (n : UInt8)
deriving DecidableEq, Repr

inductive IpAddr
  | v4 (ip : Ipv4Addr)
  | v6 (ip : BitVec 128)
deriving DecidableEq, Repr

/-! ## Rule messages -/

inductive RuleAction
  | unspec
  | toTable
  | goto
  | nop
  | blackhole
  | unreachable
  | prohibit
  | other (n : UInt8)
deriving DecidableEq, Repr

structure RuleHeader where
  family : AddressFamily := .unspec
  srcLen : UInt8 := 0
  table : UInt8 := 0
  action : RuleAction := .unspec
deriving DecidableEq, Repr

inductive RuleAttribute
  | priority (p : UInt32)
  | source (ip : IpAddr)
  | table (t : UInt32)
  | fwMark (m : UInt32)
  | fwMask (m : UInt32)
  | other (kind : ℕ)
deriving DecidableEq, Repr

structure RuleMessage where
  header : RuleHeader := {}
  attributes : List RuleAttribute := []
deriving DecidableEq, Repr

/-- A rule of dumbarp as the reconciler remembers it from a dump. -/
structure CurrentRule where
  src : Ipv4Addr
  fwmark : Option UInt32
  fwmask : Option UInt32
deriving DecidableEq, Repr

/-- The variables that `parse_dumbarp_rule` fills while it walks over the attributes. -/
structure RuleFields where
  priority : Option UInt32 := none
  src : Option Ipv4Addr := none
  tableAttr : Option UInt32 := none
  fwmark : Option UInt32 := none
  fwmask : Option UInt32 := none

/-- One turn of the loop over the attributes of a rule. -/
def RuleFields.read (f : RuleFields) : RuleAttribute → RuleFields
  | .priority p => { f with priority := some p }
  | .source (.v4 ip) => { f with src := some ip }
  | .table t => { f with tableAttr := some t }
  | .fwMark m => { f with fwmark := some m }
  | .fwMask m => { f with fwmask := some m }
  | _ => f

/-- Read a rule of dumbarp, with the table it names, from a dumped message. -/
def parseDumbarpRule (msg : RuleMessage) : Option (UInt32 × CurrentRule) :=
  if msg.header.family ≠ .inet then none
  else
    let f := msg.attributes.foldl RuleFields.read {}
    if f.priority ≠ some dumbarpPriority then none
    else
      match f.src with
      | none => none
      | some src =>
        if msg.header.srcLen ≠ 32 then none
        else
          let table := f.tableAttr.getD msg.header.table.toUInt32
          -- a mark of zero is no mark, and without a mark the mask does not count
          let fwmark := f.fwmark.filter (· ≠ 0)
          some (table, { src, fwmark, fwmask := fwmark.bind fun _ => f.fwmask })

/-! ## Route messages -/

/-- The flag of a next hop that is taken to be on the link, whatever its address. -/
def rtnhOnlink : UInt32 := 4

structure RouteHeader where
  family : AddressFamily := .unspec
  dstLen : UInt8 := 0
  table : UInt8 := 0
  protocol : UInt8 := 0
  flags : UInt32 := 0
deriving DecidableEq, Repr

inductive RouteAttribute
  | destination (ip : IpAddr)
  | gateway (ip : IpAddr)
  | oif (idx : UInt32)
  | table (t : UInt32)
  | other (kind : ℕ)
deriving DecidableEq, Repr

structure RouteMessage where
  header : RouteHeader := {}
  attributes : List RouteAttribute := []
deriving DecidableEq, Repr

/-- A route of dumbarp as the reconciler remembers it from a dump. -/
structure CurrentRoute where
  gateway : Ipv4Addr
  oif : UInt32
  onlink : Bool
deriving DecidableEq, Repr

structure ParsedRoute where
  table : UInt32
  gateway : Ipv4Addr
  oif : UInt32
  onlink : Bool
deriving DecidableEq, Repr

def ParsedRoute.intoValue (r : ParsedRoute) : CurrentRoute :=
  { gateway := r.gateway, oif := r.oif, onlink := r.onlink }

/-- The variables that `parse_dumbarp_route` fills while it walks over the attributes. -/
structure RouteFields where
  gateway : Option Ipv4Addr := none
  oif : Option UInt32 := none
  tableAttr : Option UInt32 := none

/-- One turn of the loop over the attributes of a route. -/
def RouteFields.read (f : RouteFields) : RouteAttribute → RouteFields
  | .gateway (.v4 ip) => { f with gateway := some ip }
  | .oif idx => { f with oif := some idx }
  | .table t => { f with tableAttr := some t }
  | _ => f

/-- Whether a flag word has the on-link flag. -/
def hasOnlink (flags : UInt32) : Bool := flags &&& rtnhOnlink == rtnhOnlink

/-- Read a route of dumbarp from a dumped message. -/
def parseDumbarpRoute (msg : RouteMessage) : Option ParsedRoute :=
  if msg.header.family ≠ .inet then none
  else if msg.header.protocol ≠ dumbarpProto then none
  else
    let f := msg.attributes.foldl RouteFields.read {}
    match f.gateway, f.oif with
    | some gateway, some oif =>
      -- the table attribute wins over the header, which has room for one byte
      some
        { table := f.tableAttr.getD msg.header.table.toUInt32
          gateway
          oif
          onlink := hasOnlink msg.header.flags }
    | _, _ => none

/-! ## The requests -/

/-- The table the kernel calls `main`; the builders of `rtnetlink` start from it. -/
def rtTableMain : UInt8 := 254

/-- The protocol the route builder starts from. -/
def rtprotStatic : UInt8 := 4

/-- The builder's `table_id` for rules: the header has room for one byte only. -/
def RuleMessage.tableId (m : RuleMessage) (t : UInt32) : RuleMessage :=
  if t > 255 then { m with attributes := m.attributes ++ [.table t] }
  else { m with header := { m.header with table := t.toUInt8 } }

def RuleMessage.push (m : RuleMessage) (a : RuleAttribute) : RuleMessage :=
  { m with attributes := m.attributes ++ [a] }

/-- The builder's `table_id` for routes. -/
def RouteMessage.tableId (m : RouteMessage) (t : UInt32) : RouteMessage :=
  if t > 255 then { m with attributes := m.attributes ++ [.table t] }
  else { m with header := { m.header with table := t.toUInt8 } }

def RouteMessage.push (m : RouteMessage) (a : RouteAttribute) : RouteMessage :=
  { m with attributes := m.attributes ++ [a] }

/-- The request of `add_rule`. -/
def addRuleRequest (src : Ipv4Addr) (table : UInt32) (fwmark : Option UInt32) : RuleMessage :=
  let req : RuleMessage :=
    { header := { family := .inet, srcLen := 32, table := rtTableMain, action := .toTable }
      attributes := [.source (.v4 src)] }
  let req := (req.tableId table).push (.priority dumbarpPriority)
  match fwmark with
  -- the builder knows no mask, so the attribute is pushed by hand
  | some mark => (req.push (.fwMark mark)).push (.fwMask fwmaskExact)
  | none => req

/-- The request of `del_rule`.  It names no mask. -/
def delRuleRequest (src : Ipv4Addr) (table : UInt32) (fwmark : Option UInt32) : RuleMessage :=
  let msg : RuleMessage :=
    { header := { family := .inet, srcLen := 32, action := .toTable }
      attributes := [.source (.v4 src), .table table, .priority dumbarpPriority] }
  match fwmark with
  | some mark => msg.push (.fwMark mark)
  | none => msg

/-- What the route builder starts from: the default route of the main table. -/
def newRouteMessage : RouteMessage :=
  { header := { family := .inet, table := rtTableMain, protocol := rtprotStatic } }

/-- The builder's `protocol`. -/
def RouteMessage.protocol (m : RouteMessage) (p : UInt8) : RouteMessage :=
  { m with header := { m.header with protocol := p } }

/-- The builder's `onlink`. -/
def RouteMessage.onlink (m : RouteMessage) : RouteMessage :=
  { m with header := { m.header with flags := m.header.flags ||| rtnhOnlink } }

/-- The request of `add_route`. -/
def addRouteRequest (table : UInt32) (gateway : Ipv4Addr) (ifindex : UInt32) : RouteMessage :=
  ((((newRouteMessage.tableId table).protocol dumbarpProto).push (.oif ifindex)).push
    (.gateway (.v4 gateway))).onlink

/-- The request of `del_route`. -/
def delRouteRequest (table : UInt32) : RouteMessage :=
  (newRouteMessage.tableId table).protocol dumbarpProto

end Dumbarp.Routing
