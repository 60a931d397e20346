import Turnstile.Text.Quoted
set_option autoImplicit false

/-! Socket addresses as text: a host address of four octets or of eight groups, and
a port. Many texts name an address with groups; it is written in only one of
them, with its longest run of zero groups left out. -/

namespace Turnstile.Net

inductive HostAddress where
  | octets (first second third fourth : UInt8)
  /-- Eight groups of sixteen bits, and the zone they are valid in, or zero. -/
  | groups (parts : List UInt16) (scope : UInt32)
  deriving DecidableEq, Repr

structure SocketAddress where
  host : HostAddress
  port : UInt16
  deriving DecidableEq, Repr

/-- Reads something off the front of a text. -/
abbrev Scanner (Result : Type) := List Char → Option (Result × List Char)

def digit? (radix : Nat) (char : Char) : Option Nat :=
  let value :=
    if '0' ≤ char && char ≤ '9' then some (char.toNat - '0'.toNat)
    else if 'a' ≤ char && char ≤ 'f' then some (char.toNat - 'a'.toNat + 10)
    else if 'A' ≤ char && char ≤ 'F' then some (char.toNat - 'A'.toNat + 10)
    else none
  value.filter (· < radix)

def valueOf (radix : Nat) (digits : List Char) : Nat :=
  digits.foldl (fun value char => value * radix + (digit? radix char).getD 0) 0

structure NumberForm where
  radix : Nat
  largest : Nat
  mostDigits : Option Nat
  leadingZeros : Bool

namespace NumberForm

def admits (form : NumberForm) (digits : List Char) : Bool :=
  !digits.isEmpty && form.mostDigits.all (digits.length ≤ ·) &&
    (form.leadingZeros || digits.length == 1 || digits.head? != some '0') &&
    valueOf form.radix digits ≤ form.largest

def scan (form : NumberForm) : Scanner Nat := fun text =>
  let isDigit := fun char => (digit? form.radix char).isSome
  let digits := text.takeWhile isDigit
  if form.admits digits then some (valueOf form.radix digits, text.dropWhile isDigit) else none

def octet : NumberForm := ⟨10, 0xff, some 3, false⟩

def group : NumberForm := ⟨16, 0xffff, some 4, true⟩

def scope : NumberForm := ⟨10, 0xffffffff, none, true⟩

def port : NumberForm := ⟨10, 0xffff, none, true⟩

end NumberForm

def scanChar (char : Char) : Scanner Unit
  | found :: rest => if found = char then some ((), rest) else none
  | [] => none

def scanOctets : Scanner (UInt8 × UInt8 × UInt8 × UInt8) := fun text => do
  let (first, text) ← NumberForm.octet.scan text
  let ((), text) ← scanChar '.' text
  let (second, text) ← NumberForm.octet.scan text
  let ((), text) ← scanChar '.' text
  let (third, text) ← NumberForm.octet.scan text
  let ((), text) ← scanChar '.' text
  let (fourth, text) ← NumberForm.octet.scan text
  return ((UInt8.ofNat first, UInt8.ofNat second, UInt8.ofNat third, UInt8.ofNat fourth), text)

def groupsOfOctets : UInt8 × UInt8 × UInt8 × UInt8 → List UInt16
  | (first, second, third, fourth) =>
      [UInt16.ofNat (first.toNat * 256 + second.toNat),
        UInt16.ofNat (third.toNat * 256 + fourth.toNat)]

structure GroupRun where
  groups : List UInt16
  /-- Whether the last two are written as four octets. -/
  endsInOctets : Bool
  rest : List Char

namespace GroupRun

def extend (group : UInt16) (run : GroupRun) : GroupRun :=
  { run with groups := group :: run.groups }

end GroupRun

def scanSeparated {Result : Type} (isFirst : Bool) (scan : Scanner Result) : Scanner Result :=
  fun text => if isFirst then scan text else (scanChar ':' text).bind fun (_, rest) => scan rest

/-- Read at most `room` groups with colons between them. The last two may be written
as four octets. -/
def scanGroups (isFirst : Bool) : (room : Nat) → List Char → GroupRun
  | 0, text => ⟨[], false, text⟩
  | room + 1, text =>
      match if room = 0 then none else scanSeparated isFirst scanOctets text with
      | some (octets, rest) => ⟨groupsOfOctets octets, true, rest⟩
      | none =>
          match scanSeparated isFirst NumberForm.group.scan text with
          | some (group, rest) => (scanGroups false room rest).extend (UInt16.ofNat group)
          | none => ⟨[], false, text⟩

def groupCount : Nat := 8

/-- Read eight groups. Two colons stand for as many zero groups as are missing. -/
def scanHostGroups : Scanner (List UInt16) := fun text =>
  let head := scanGroups true groupCount text
  if head.groups.length = groupCount then some (head.groups, head.rest)
  else if head.endsInOctets then none
  else match head.rest with
    | ':' :: ':' :: rest =>
        let tail := scanGroups true (groupCount - 1 - head.groups.length) rest
        let zeros := List.replicate (groupCount - head.groups.length - tail.groups.length) 0
        some (head.groups ++ zeros ++ tail.groups, tail.rest)
    | _ => none

def scanScope : Scanner Nat := fun text => do
  let ((), text) ← scanChar '%' text
  NumberForm.scope.scan text

def scanHost : Scanner HostAddress := fun text =>
  match scanOctets text with
  | some ((first, second, third, fourth), rest) => some (.octets first second third fourth, rest)
  | none => do
      let ((), text) ← scanChar '[' text
      let (groups, text) ← scanHostGroups text
      let (scope, text) := (scanScope text).getD (0, text)
      let ((), text) ← scanChar ']' text
      return (.groups groups (UInt32.ofNat scope), text)

def scanPort : Scanner UInt16 := fun text => do
  let ((), text) ← scanChar ':' text
  let (port, text) ← NumberForm.port.scan text
  return (UInt16.ofNat port, text)

namespace HostAddress

def renderOctets (first second third fourth : Nat) : String :=
  ".".intercalate [toString first, toString second, toString third, toString fourth]

def renderGroup (group : UInt16) : String := String.ofList (Nat.toDigits 16 group.toNat)

def renderGroups (parts : List UInt16) : String := ":".intercalate (parts.map renderGroup)

/-- Where the first of the longest runs of zeros starts, and its length. -/
def longestZeros (start : Nat) : List UInt16 → Nat × Nat
  | [] => (start, 0)
  | group :: rest =>
      let zeros := ((group :: rest).takeWhile (· == 0)).length
      let later := longestZeros (start + 1) rest
      if later.2 ≤ zeros then (start, zeros) else later

/-- Eight groups, with a run of two or more zeros left out. -/
def renderHostGroups (parts : List UInt16) : String :=
  match parts with
  | [0, 0, 0, 0, 0, 0xffff, high, low] =>
      "::ffff:" ++ renderOctets (high.toNat / 256) (high.toNat % 256) (low.toNat / 256)
        (low.toNat % 256)
  | parts =>
      let (start, length) := longestZeros 0 parts
      if length < 2 then renderGroups parts
      else renderGroups (parts.take start) ++ "::" ++ renderGroups (parts.drop (start + length))

def render : HostAddress → String
  | octets first second third fourth =>
      renderOctets first.toNat second.toNat third.toNat fourth.toNat
  | groups parts scope =>
      "[" ++ renderHostGroups parts ++
        (if scope = 0 then "" else "%" ++ toString scope.toNat) ++ "]"

end HostAddress

namespace SocketAddress

def parse? (text : String) : Option SocketAddress := do
  let (host, rest) ← scanHost text.toList
  match ← scanPort rest with
  | (port, []) => return ⟨host, port⟩
  | _ => none

def render (address : SocketAddress) : String :=
  address.host.render ++ ":" ++ toString address.port.toNat

end SocketAddress

end Turnstile.Net
