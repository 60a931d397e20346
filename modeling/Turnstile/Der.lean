import Turnstile.Bytes
set_option autoImplicit false

/-! The distinguished encoding of key material: each element is a tag octet, the
shortest form of its length, and its content. Only what a key needs is read:
tags of one octet, lengths below 65536 and numbers that are not negative. -/

namespace Turnstile.Der

def integerTag : UInt8 := 0x02
def octetStringTag : UInt8 := 0x04
def nullTag : UInt8 := 0x05
def objectIdentifierTag : UInt8 := 0x06
def sequenceTag : UInt8 := 0x30

def lengthOctets (size : Nat) : Bytes :=
  if size < 0x80 then [UInt8.ofNat size]
  else
    let digits := Bytes.ofNatMinimal size
    UInt8.ofNat (0x80 + digits.length) :: digits

def element (tag : UInt8) (content : Bytes) : Bytes :=
  tag :: lengthOctets content.length ++ content

/-- The content of a number: a zero octet in front keeps its top bit clear. -/
def naturalContent (value : Nat) : Bytes :=
  match Bytes.ofNatMinimal value with
  | [] => [0]
  | first :: rest => if first.toNat < 0x80 then first :: rest else 0 :: first :: rest

def natural (value : Nat) : Bytes := element integerTag (naturalContent value)

def sequence (elements : List Bytes) : Bytes := element sequenceTag elements.flatten

def length? : Bytes → Option (Nat × Bytes)
  | [] => none
  | first :: rest =>
      if first.toNat < 0x80 then some (first.toNat, rest)
      else if first = 0x81 then
        match rest with
        | low :: rest => if low.toNat < 0x80 then none else some (low.toNat, rest)
        | [] => none
      else if first = 0x82 then
        match rest with
        | high :: low :: rest =>
            let size := high.toNat * 256 + low.toNat
            if size < 0x100 then none else some (size, rest)
        | _ => none
      else none

def element? : Bytes → Option (UInt8 × Bytes × Bytes)
  | [] => none
  | tag :: rest =>
      if tag.toNat % 32 = 31 then none
      else match length? rest with
        | none => none
        | some (size, rest) =>
            if size ≤ rest.length then some (tag, rest.take size, rest.drop size) else none

def expect? (tag : UInt8) (bytes : Bytes) : Option (Bytes × Bytes) :=
  match element? bytes with
  | some (found, content, rest) => if found = tag then some (content, rest) else none
  | none => none

/-- The number in the content of an element: in its shortest form and not
negative. -/
def naturalOf? : Bytes → Option Nat
  | [] => none
  | [only] => if only.toNat < 0x80 then some only.toNat else none
  | first :: second :: rest =>
      if 0x80 ≤ first.toNat then none
      else if first = 0 ∧ second.toNat < 0x80 then none
      else some (Bytes.toNat (first :: second :: rest))

def natural? (bytes : Bytes) : Option (Nat × Bytes) := do
  let (content, rest) ← expect? integerTag bytes
  let value ← naturalOf? content
  return (value, rest)

end Turnstile.Der
