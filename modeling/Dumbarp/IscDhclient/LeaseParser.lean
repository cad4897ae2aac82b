/-
The parser of `dhclient` lease files (`dhcp-lease-read/src/isc_dhclient/lease_parser.rs`).

The combinators and the calendar are as their crates document them; which characters count as
alphanumeric is a parameter.  The errors of the parser are left out: no caller looks at one.
-/
import Dumbarp.Chrono
import Dumbarp.Engine.Interface
import Dumbarp.Lib.Parse
import Mathlib.Data.List.DropRight

namespace Dumbarp.IscDhclient

open Civil Parse

/-- What the parser takes from elsewhere: the limits of dates and `char::is_alphanumeric`. -/
structure Platform where
  chrono : Chrono
  isAlphanumeric : Char → Bool

/-- The documented limits, and the alphanumeric characters of ASCII. -/
structure Platform.Documented (platform : Platform) : Prop where
  chrono : platform.chrono.Documented
  ascii : ∀ c : Char, c.toNat < 128 → platform.isAlphanumeric c = c.isAlphanum

/-- `LeaseStmt`. -/
inductive LeaseStmt
  | interface (v : String)
  | fixedAddress (v : String)
  | option (k v : String)
  | renew (v : DateTime)
  | rebind (v : DateTime)
  | expire (v : DateTime)
deriving DecidableEq

/-- `Lease`. -/
@[ext]
structure Lease where
  interface : Option String := none
  fixedAddress : Option String := none
  options : List (String × String) := []
  renew : Option DateTime := none
  rebind : Option DateTime := none
  expire : Option DateTime := none
deriving DecidableEq

/-- `parse_string_lit`. -/
def parseStringLit : Parser String := do
  tag "\""
  let content ← takeWhile1 fun c => c ≠ '"'
  tag "\""
  return String.ofList content

/-- `parse_interface`. -/
def parseInterface : Parser String := do
  tag "interface"
  let _ ← space1
  parseStringLit

/-- `str::trim_end`. -/
def trimEnd (cs : List Char) : List Char := cs.rdropWhile Engine.isWhitespace

/-- `digits.parse::<u32>()`, of a text of digits. -/
def parseDigits (digits : List Char) : Option UInt32 :=
  let n := Nat.ofDigitChars 10 digits 0
  if n < 2 ^ 32 then some (UInt32.ofNat n) else none

/-- `parse_u32`. -/
def parseU32 : Parser UInt32 := do
  let digits ← digit1
  ofOption (parseDigits digits)

/-- The value in `parse_option`: one that is no string literal is taken up to the semicolon. -/
def parseOptionValue : Parser String :=
  parseStringLit <|> do
    let val ← takeWhile1 fun c => c ≠ ';'
    return String.ofList (trimEnd val)

section Platform

variable (platform : Platform)

/-- `parse_fixed_address`. -/
def parseFixedAddress : Parser String := do
  tag "fixed-address"
  let _ ← space1
  let ip ← takeWhile1 fun c => platform.isAlphanumeric c || c = '.'
  return String.ofList ip

/-- `parse_option`. -/
def parseOption : Parser (String × String) := do
  tag "option"
  let _ ← space1
  let key ← takeWhile1 fun c => platform.isAlphanumeric c || c = '-'
  let _ ← space1
  let value ← parseOptionValue
  return (String.ofList key, value)

/-- `parse_datetime`. -/
def parseDatetime : Parser DateTime := do
  let _weekday ← parseU32
  let _ ← space1
  let year ← parseU32
  char '/'
  let month ← parseU32
  char '/'
  let day ← parseU32
  let _ ← space1
  let hour ← parseU32
  char ':'
  let minute ← parseU32
  char ':'
  let second ← parseU32
  ofOption ((platform.chrono.fromYmdOpt year.toInt32 month day).bind
    fun d => Chrono.andHmsOpt d hour minute second)

/-- `parse_renew`, `parse_rebind` and `parse_expire`: a date behind a keyword. -/
def parseDated (keyword : String) : Parser DateTime := do
  tag keyword
  let _ ← space1
  parseDatetime platform

/-- `parse_renew`. -/
def parseRenew : Parser DateTime := parseDated platform "renew"

/-- `parse_rebind`. -/
def parseRebind : Parser DateTime := parseDated platform "rebind"

/-- `parse_expire`. -/
def parseExpire : Parser DateTime := parseDated platform "expire"

/-- The alternatives of `parse_stmt`. -/
def parseAlternatives : Parser LeaseStmt :=
  LeaseStmt.interface <$> parseInterface
  <|> LeaseStmt.fixedAddress <$> parseFixedAddress platform
  <|> (fun kv => LeaseStmt.option kv.1 kv.2) <$> parseOption platform
  <|> LeaseStmt.renew <$> parseRenew platform
  <|> LeaseStmt.rebind <$> parseRebind platform
  <|> LeaseStmt.expire <$> parseExpire platform

/-- `parse_stmt`. -/
def parseStmt : Parser LeaseStmt := do
  let _ ← multispace0
  let stmt ← parseAlternatives platform
  char ';'
  return stmt

end Platform

/-- The body of the loop of `parse_lease`. -/
def Lease.add (lease : Lease) : LeaseStmt → Lease
  | .interface v => { lease with interface := some v }
  | .fixedAddress v => { lease with fixedAddress := some v }
  | .option k v => { lease with options := lease.options ++ [(k, v)] }
  | .renew v => { lease with renew := some v }
  | .rebind v => { lease with rebind := some v }
  | .expire v => { lease with expire := some v }

/-- `parse_lease`. -/
def parseLease (platform : Platform) : Parser Lease := do
  let _ ← multispace0
  tag "lease"
  let _ ← multispace0
  char '\x7b'
  let stmts ← many0 (parseStmt platform)
  let _ ← multispace0
  char '\x7d'
  return stmts.foldl Lease.add {}

/-- `parse_leases`. -/
def parseLeases (platform : Platform) : Parser (List Lease) := do
  let leases ← many0 (parseLease platform)
  let _ ← multispace0
  return leases

end Dumbarp.IscDhclient
