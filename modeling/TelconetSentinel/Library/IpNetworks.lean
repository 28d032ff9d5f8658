import TelconetSentinel.Library.FallibleLists
import Mathlib.Tactic

namespace TelconetSentinel.IpNetworks

open FallibleLists

inductive Version
  | v4
  | v6
  deriving DecidableEq, Repr

namespace Version

def groupBits : Version → ℕ
  | v4 => 8
  | v6 => 16

def groupCount : Version → ℕ
  | v4 => 4
  | v6 => 8

def maxPrefix : Version → ℕ
  | v4 => 32
  | v6 => 128

end Version

section Reading

def intMaxStrDigits : ℕ := 4300

def parseOctet (text : List Char) : Option ℕ :=
  if text = [] ∨ ¬ text.all Char.isDigit ∨ 3 < text.length ∨ (text ≠ ['0'] ∧ text.head? = some '0') then none
  else
    let octet := Nat.ofDigitChars 10 text 0
    if 255 < octet then none else some octet

def parseIpv4 (text : List Char) : Option (List ℕ) :=
  let octets := text.splitOn '.'
  if octets.length ≠ 4 then none else octets.mapM parseOctet

def hexDigitValue (c : Char) : Option ℕ :=
  if '0' ≤ c ∧ c ≤ '9' then some (c.toNat - '0'.toNat)
  else if 'a' ≤ c ∧ c ≤ 'f' then some (c.toNat - 'a'.toNat + 10)
  else if 'A' ≤ c ∧ c ≤ 'F' then some (c.toNat - 'A'.toNat + 10)
  else none

def hexValue (text : List Char) : Option ℕ :=
  text.foldlM (fun n c => (hexDigitValue c).map fun digit => 16 * n + digit) 0

def parseHextet (text : List Char) : Option ℕ :=
  if text = [] ∨ 4 < text.length then none else hexValue text

/-- A dotted quad at the end stands for two hextets. -/
def embedIpv4 (parts : List (List Char)) : Option (List (List Char)) :=
  match parts.getLast? with
  | none => some parts
  | some last =>
    if '.' ∈ last then
      match parseIpv4 last with
      | some [a, b, c, d] =>
        some (parts.dropLast ++ [Nat.toDigits 16 (a * 256 + b), Nat.toDigits 16 (c * 256 + d)])
      | _ => none
    else some parts

/-- The parts before the `::`, the number of hextets that it stands for, and the parts after it. -/
def layout (parts : List (List Char)) : Option (List (List Char) × ℕ × List (List Char)) :=
  match parts with
  | [] => none
  | first :: rest =>
    match rest.getLast? with
    | none => none
    | some last =>
      match rest.dropLast.splitOn [] with
      | [_] => if parts.length = 8 ∧ first ≠ [] ∧ last ≠ [] then some (parts, 0, []) else none
      | [inner, inner'] =>
        if (first = [] ∧ inner ≠ []) ∨ (last = [] ∧ inner' ≠ []) then none
        else
          let high := if first = [] then [] else first :: inner
          let low := if last = [] then [] else inner' ++ [last]
          if high.length + low.length < 8 then some (high, 8 - (high.length + low.length), low) else none
      | _ => none

def parseIpv6 (text : List Char) : Option (List ℕ) := do
  let parts := text.splitOn ':'
  if parts.length < 3 then none
  else do
    let parts ← embedIpv4 parts
    if 9 < parts.length then none
    else do
      let (high, skipped, low) ← layout parts
      let highHextets ← high.mapM parseHextet
      let lowHextets ← low.mapM parseHextet
      return highHextets ++ List.replicate skipped 0 ++ lowHextets

def splitScopeId (text : List Char) : Option (List Char × Option (List Char)) :=
  match text.splitOn '%' with
  | [address] => some (address, none)
  | [address, scope] => if scope = [] then none else some (address, some scope)
  | _ => none

def prefixFromPrefixString (maxPrefix : ℕ) (text : List Char) : Option ℕ :=
  if text = [] ∨ ¬ text.all Char.isDigit ∨ intMaxStrDigits < text.length then none
  else
    let prefixLength := Nat.ofDigitChars 10 text 0
    if prefixLength ≤ maxPrefix then some prefixLength else none

def addressValue (bits : ℕ) (groups : List ℕ) : ℕ := groups.foldl (fun n group => n * 2 ^ bits + group) 0

def countRighthandZeroBits (number bits : ℕ) : ℕ :=
  ((List.range bits).find? fun i => number.testBit i).getD bits

def prefixFromIpInt (ip : ℕ) : Option ℕ :=
  let trailingZeroes := countRighthandZeroBits ip 32
  let prefixLength := 32 - trailingZeroes
  if ip >>> trailingZeroes ≠ 2 ^ prefixLength - 1 then none else some prefixLength

def prefixFromIpString (text : List Char) : Option ℕ := do
  let ip := addressValue 8 (← parseIpv4 text)
  (prefixFromIpInt ip).or (prefixFromIpInt (ip ^^^ (2 ^ 32 - 1)))

def makeNetmask (version : Version) (mask : Option (List Char)) : Option ℕ :=
  match mask with
  | none => some version.maxPrefix
  | some text =>
    match version with
    | .v4 => (prefixFromPrefixString 32 text).or (prefixFromIpString text)
    | .v6 => prefixFromPrefixString 128 text

def splitOptionalNetmask (text : List Char) : Option (List Char × Option (List Char)) :=
  match text.splitOn '/' with
  | [address] => some (address, none)
  | [address, mask] => some (address, some mask)
  | _ => none

structure Fields where
  version : Version
  groups : List ℕ
  scope : Option (List Char)
  prefixLength : ℕ
  deriving DecidableEq, Repr

namespace Fields

variable (fields : Fields)

def packed : ℕ := addressValue fields.version.groupBits fields.groups

def netmask : ℕ :=
  let allOnes := 2 ^ fields.version.maxPrefix - 1
  allOnes ^^^ (allOnes >>> fields.prefixLength)

def HostBitsSet : Prop := fields.packed &&& fields.netmask ≠ fields.packed

instance : Decidable fields.HostBitsSet := inferInstanceAs (Decidable (_ ≠ _))

end Fields

inductive NetworkError
  | unreadable
  | hostBits
  deriving DecidableEq, Repr

def checkHostBits (fields : Fields) : Except NetworkError Fields :=
  if fields.HostBitsSet then .error .hostBits else .ok fields

def ipv4Network (text : List Char) : Except NetworkError Fields :=
  match splitOptionalNetmask text with
  | none => .error .unreadable
  | some (address, mask) =>
    match parseIpv4 address, makeNetmask .v4 mask with
    | some octets, some prefixLength => checkHostBits ⟨.v4, octets, none, prefixLength⟩
    | _, _ => .error .unreadable

def ipv6Network (text : List Char) : Except NetworkError Fields :=
  match splitOptionalNetmask text with
  | none => .error .unreadable
  | some (address, mask) =>
    match splitScopeId address with
    | none => .error .unreadable
    | some (address, scope) =>
      match parseIpv6 address, makeNetmask .v6 mask with
      | some hextets, some prefixLength => checkHostBits ⟨.v6, hextets, scope, prefixLength⟩
      | _, _ => .error .unreadable

/-- Only an unreadable address or netmask leads on to IPv6. -/
def readNetwork (text : List Char) : Except NetworkError Fields :=
  match ipv4Network text with
  | .error .unreadable => ipv6Network text
  | result => result

end Reading

section Printing

structure ZeroRuns where
  bestStart : ℕ
  bestLength : ℕ
  start : Option ℕ
  length : ℕ

def ZeroRuns.step (runs : ZeroRuns) (entry : List Char × ℕ) : ZeroRuns :=
  if entry.1 = ['0'] then
    let start := runs.start.getD entry.2
    let length := runs.length + 1
    if runs.bestLength < length then ⟨start, length, some start, length⟩
    else ⟨runs.bestStart, runs.bestLength, some start, length⟩
  else ⟨runs.bestStart, runs.bestLength, none, 0⟩

def padded (parts : List (List Char)) : List (List Char) := if parts = [] then [[]] else parts

/-- The first of the longest runs of zeros, where it has two or more, becomes an empty part. -/
def compressHextets (hextets : List (List Char)) : List (List Char) :=
  let runs := hextets.zipIdx.foldl ZeroRuns.step ⟨0, 0, none, 0⟩
  if 1 < runs.bestLength then
    padded (hextets.take runs.bestStart) ++ [] :: padded (hextets.drop (runs.bestStart + runs.bestLength))
  else hextets

def addressText (version : Version) (groups : List ℕ) : List Char :=
  match version with
  | .v4 => ['.'].intercalate (groups.map (Nat.toDigits 10))
  | .v6 => [':'].intercalate (compressHextets (groups.map (Nat.toDigits 16)))

def Fields.text (fields : Fields) : List Char :=
  addressText fields.version fields.groups ++ (fields.scope.elim [] fun scope => '%' :: scope) ++
    '/' :: Nat.toDigits 10 fields.prefixLength

end Printing

end TelconetSentinel.IpNetworks
