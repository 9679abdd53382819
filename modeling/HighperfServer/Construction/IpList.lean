import HighperfServer.Construction.Config
import HighperfServer.Library.Text

namespace HighperfServer
open Library

namespace IpAddr

def readGivenChar (target : Char) : Str → Option Str
  | [] => none
  | char :: rest => if char = target then some rest else none

def readSeparator {A : Type} (separator : Char) (index : Nat) (inner : Str → Option (A × Str))
    (input : Str) : Option (A × Str) :=
  if 0 < index then (readGivenChar separator input).bind inner else inner input

def toDigit (radix : Nat) (char : Char) : Option Nat :=
  let value :=
    if char.isDigit then char.toNat - '0'.toNat
    else if char.isLower then char.toNat - 'a'.toNat + 10
    else if char.isUpper then char.toNat - 'A'.toNat + 10
    else radix
  if value < radix then some value else none

/-- The digit loop accumulates the number and its digit count, and fails past the maximum. -/
def readDigits (radix maxDigits : Nat) : Nat → Nat → Str → Option (Nat × Nat × Str)
  | result, count, [] => some (result, count, [])
  | result, count, char :: rest =>
      match toDigit radix char with
      | some digit =>
          if maxDigits < count + 1 then none
          else readDigits radix maxDigits (result * radix + digit) (count + 1) rest
      | none => some (result, count, char :: rest)

def readNumber (radix maxDigits bound : Nat) (allowZeroPrefix : Bool) (input : Str) :
    Option (Nat × Str) :=
  match readDigits radix maxDigits 0 0 input with
  | none => none
  | some (result, count, rest) =>
      if count = 0 then none
      else if !allowZeroPrefix && input.head? = some '0' && 1 < count then none
      else if result < bound then some (result, rest) else none

def readOctet (index : Nat) : Str → Option (Nat × Str) :=
  readSeparator '.' index (readNumber 10 3 256 false)

def readIpv4Addr (input : Str) : Option (BitVec 32 × Str) := do
  let (first, input) ← readOctet 0 input
  let (second, input) ← readOctet 1 input
  let (third, input) ← readOctet 2 input
  let (fourth, input) ← readOctet 3 input
  return (BitVec.ofNat 32 (((first * 256 + second) * 256 + third) * 256 + fourth), input)

/-- Colon-separated groups, of which the last two may be an embedded IPv4 address.

The result holds the groups, whether they end in an IPv4 address, and the rest of the input. -/
def readGroups : Nat → Nat → Str → List Nat × Bool × Str
  | 0, _, input => ([], false, input)
  | left + 1, index, input =>
      match if 0 < left then readSeparator ':' index readIpv4Addr input else none with
      | some (address, rest) => ([address.toNat / 65536, address.toNat % 65536], true, rest)
      | none =>
          match readSeparator ':' index (readNumber 16 4 65536 true) input with
          | some (group, rest) =>
              let (groups, embedded, rest) := readGroups left (index + 1) rest
              (group :: groups, embedded, rest)
          | none => ([], false, input)

def ofGroups (groups : List Nat) : BitVec 128 :=
  BitVec.ofNat 128 (groups.foldl (fun value group => value * 65536 + group) 0)

def readIpv6Addr (input : Str) : Option (BitVec 128 × Str) :=
  let (head, embedded, rest) := readGroups 8 0 input
  if head.length = 8 then some (ofGroups head, rest)
  else if embedded then none
  else do
    let rest ← readGivenChar ':' rest
    let rest ← readGivenChar ':' rest
    let (tail, _, rest) := readGroups (8 - (head.length + 1)) 0 rest
    let zeros := List.replicate (8 - head.length - tail.length) 0
    return (ofGroups (head ++ zeros ++ tail), rest)

def readIpAddr (input : Str) : Option (IpAddr × Str) :=
  match readIpv4Addr input with
  | some (address, rest) => some (.v4 address, rest)
  | none => (readIpv6Addr input).map fun (address, rest) => (.v6 address, rest)

def parse (input : Str) : Option IpAddr :=
  match readIpAddr input with
  | some (address, []) => some address
  | _ => none

end IpAddr

/-- A comma-separated list of addresses, without the entries that do not parse. -/
def parseIpList (text : Str) : List IpAddr :=
  (text.splitOn ',').filterMap fun entry => IpAddr.parse (trim entry)

/-- `from_env` fills the lists from `BLOCKED_IPS` and `ALLOWED_IPS`. -/
def ServerConfig.withIpLists (config : ServerConfig) (blocked allowed : Str) : ServerConfig :=
  { config with blockedIps := parseIpList blocked, allowedIps := parseIpList allowed }

end HighperfServer
