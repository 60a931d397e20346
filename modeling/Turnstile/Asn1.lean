import Turnstile.Text.Utf8
set_option autoImplicit false

/-! A tolerant reading of nested elements, for public keys that come inside
certificates and envelopes. Lengths need not be shortest; the elements of the
common types are checked for form, and all others are passed over. -/

namespace Turnstile.Asn1

inductive Node where
  | sequence (items : List Node)
  | identifier (arcs : List Nat)
  /-- The octets of a bit string or an octet string. -/
  | octets (content : Bytes)
  | other

/-- Read a number in base 128, whose last octet has its top bit clear. -/
def base128? : (value : Nat) → Bytes → Option (Nat × Bytes)
  | _, [] => none
  | value, byte :: rest =>
      let next := value * 128 + byte.toNat % 128
      if byte.toNat < 128 then some (next, rest) else base128? next rest

/-- Read the tag of an element: whether it is of a universal type, and its
number. -/
def tag? : Bytes → Option (Bool × Nat × Bytes)
  | [] => none
  | byte :: rest =>
      let universal := byte.toNat < 64
      if byte.toNat % 32 = 31 then
        (base128? 0 rest).map fun (number, rest) => (universal, number, rest)
      else some (universal, byte.toNat % 32, rest)

def length? : Bytes → Option (Nat × Bytes)
  | [] => none
  | first :: rest =>
      if first.toNat < 128 then some (first.toNat, rest)
      else
        let size := first.toNat - 128
        if size ≤ 8 ∧ size ≤ rest.length then
          some (Bytes.toNat (rest.take size), rest.drop size)
        else none

def arcs? : (places : Nat) → Bytes → Option (List Nat)
  | _, [] => some []
  | 0, _ :: _ => none
  | places + 1, bytes => do
      let (arc, rest) ← base128? 0 bytes
      let arcs ← arcs? places rest
      return arc :: arcs

def identifier? : Bytes → Option (List Nat)
  | [] => none
  | first :: rest => do
      let arcs ← arcs? rest.length rest
      let top := min (first.toNat / 40) 2
      return top :: (first.toNat - top * 40) :: arcs

def monthDays (year month : Nat) : Nat :=
  if month = 2 then
    if year % 4 = 0 ∧ (year % 100 ≠ 0 ∨ year % 400 = 0) then 29 else 28
  else if month = 4 ∨ month = 6 ∨ month = 9 ∨ month = 11 then 30
  else 31

def digits? : Bytes → Option Nat :=
  List.foldl (fun value byte =>
    if 48 ≤ byte.toNat ∧ byte.toNat ≤ 57 then value.map (· * 10 + (byte.toNat - 48)) else none)
    (some 0)

def isMoment (text : Bytes) : Bool :=
  text.length == 14 &&
    match digits? (text.take 4), digits? ((text.drop 4).take 2), digits? ((text.drop 6).take 2),
      digits? ((text.drop 8).take 2), digits? ((text.drop 10).take 2), digits? (text.drop 12) with
    | some year, some month, some day, some hour, some minute, some second =>
        1 ≤ month && month ≤ 12 && 1 ≤ day && day ≤ monthDays year month && hour < 24 &&
          minute < 60 && second < 60
    | _, _, _, _, _, _ => false

def century (text : Bytes) : Bytes :=
  match digits? (text.take 2) with
  | some year => if 50 ≤ year then [49, 57] else [50, 48]
  | none => [50, 48]

def isShortTime (content : Bytes) : Bool :=
  content.length == 13 && content.getLast? == some 90 &&
    isMoment (century content ++ content.take 12)

/-- A moment with four digits of its year, perhaps with up to nine digits after a
point, in universal time. -/
def isLongTime (content : Bytes) : Bool :=
  15 ≤ content.length && content.getLast? == some 90 && isMoment (content.take 14) &&
    match (content.drop 14).dropLast with
    | [] => true
    | point :: fraction => point == 46 && fraction.length ≤ 9 && (digits? fraction).isSome

def printablePunctuation : Bytes := Utf8.encode " '()+,-./:=?"

def isPrintable (byte : UInt8) : Bool :=
  let value := byte.toNat
  (65 ≤ value && value ≤ 90) || (97 ≤ value && value ≤ 122) || (48 ≤ value && value ≤ 57) ||
    printablePunctuation.contains byte

def isPairs : Bytes → Bool
  | [] => true
  | [_] => false
  | high :: _ :: rest =>
      if 0xd8 ≤ high.toNat ∧ high.toNat ≤ 0xdb then
        match rest with
        | low :: _ :: rest => 0xdc ≤ low.toNat && low.toNat ≤ 0xdf && isPairs rest
        | _ => false
      else if 0xdc ≤ high.toNat ∧ high.toNat ≤ 0xdf then false
      else isPairs rest

def leaf? (number : Nat) (content : Bytes) : Option Node :=
  let when := fun (wellFormed : Bool) => if wellFormed then some Node.other else none
  match number with
  | 0x01 => when (content.length == 1)
  | 0x03 =>
      match content with
      | [] => some (.octets [])
      | unused :: bits => if unused.toNat ≤ bits.length * 8 then some (.octets bits) else none
  | 0x04 => some (.octets content)
  | 0x06 => (identifier? content).map .identifier
  | 0x0c => when (Utf8.decode? content).isSome
  | 0x13 => when (content.all isPrintable)
  | 0x14 => when (Utf8.decode? content).isSome
  | 0x16 => when (content.all fun byte => byte.toNat < 128)
  | 0x17 => when (isShortTime content)
  | 0x18 => when (isLongTime content)
  | 0x1c => when (Utf8.decode? content).isSome
  | 0x1e => when (isPairs content)
  | _ => some .other

/-- Read elements to the end of the octets; there must be one. A set is read
like a sequence, but no search enters it. `budget` bounds the octets read. -/
def nodes? : (budget : Nat) → Bytes → Option (List Node)
  | 0, _ => none
  | budget + 1, bytes => do
      let (universal, number, rest) ← tag? bytes
      let (size, rest) ← length? rest
      if rest.length < size then none
      let content := rest.take size
      let node ←
        if !universal then some .other
        else if number = 0x10 then (nodes? budget content).map .sequence
        else if number = 0x11 then (nodes? budget content).map fun _ => .other
        else leaf? number content
      let remaining := rest.drop size
      if remaining.isEmpty then return [node]
      return node :: (← nodes? budget remaining)

def parse? (bytes : Bytes) : Option (List Node) := nodes? (bytes.length + 1) bytes

mutual

def Node.first? {Found : Type} (wanted : Node → Option Found) : Node → Option Found
  | .sequence items => firstOf? wanted items
  | .identifier arcs => wanted (.identifier arcs)
  | .octets content => wanted (.octets content)
  | .other => wanted .other

def firstOf? {Found : Type} (wanted : Node → Option Found) : List Node → Option Found
  | [] => none
  | node :: rest =>
      match node.first? wanted with
      | some found => some found
      | none => firstOf? wanted rest

end

inductive KeyKind where
  | rsa
  | curve
  deriving DecidableEq, Repr

def kindOf? : Node → Option KeyKind
  | .identifier [1, 2, 840, 113549, 1, 1, 1] => some .rsa
  | .identifier [1, 2, 840, 10045, 2, 1] => some .curve
  | .identifier [1, 3, 101, 112] => some .curve
  | _ => none

def octetsOf? : Node → Option Bytes
  | .octets content => some content
  | _ => none

end Turnstile.Asn1
