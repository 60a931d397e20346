import Turnstile.Base64
import Turnstile.Text.Blank
import Turnstile.Text.Line
import Turnstile.Text.Utf8
set_option autoImplicit false

/-! Key material as text: a labelled frame around padded base 64. The first
opening marker starts the block, whatever stands before it, and the first
closing marker after it ends the block. A blank line inside the block ends its
header lines, each of which names its value after a colon. -/

namespace Turnstile.Pem

/-- One block: its label and the octets it frames. -/
structure Block where
  label : String
  contents : Bytes
  deriving DecidableEq, Repr

inductive Fault where
  | unframed
  /-- A part of the block is no text. -/
  | notText (fault : Utf8.Fault)
  | unlabelledBegin
  | unlabelledEnd
  | mismatch (opening closing : String)
  /-- The framed text is not padded base 64. -/
  | data (fault : Base64.Fault)
  | header (line : String)
  deriving DecidableEq, Repr

namespace Fault

def message : Fault → String
  | unframed => "malformedframing"
  | notText fault => "invalid utf-8 value: " ++ fault.message
  | unlabelledBegin => "missing BEGIN tag"
  | unlabelledEnd => "missing END tag"
  | mismatch opening closing =>
      "mismatching BEGIN (\"" ++ opening ++ "\") and END (\"" ++ closing ++ "\") tags"
  | data fault => "invalid data: " ++ fault.message
  | header line => "invalid header: " ++ line

end Fault

/-- Octets up to and including the first run that matches a marker, of which
`awaited` is still to come, and the octets after it. After a mismatch the search
starts over behind the octet that did not fit. -/
def throughMarker (marker : Bytes) : (awaited : Bytes) → Bytes → Option (Bytes × Bytes)
  | _, [] => none
  | [], _ :: _ => none
  | next :: awaited, byte :: rest =>
      if byte = next then
        if awaited.isEmpty then some ([byte], rest)
        else (throughMarker marker awaited rest).map fun (before, after) => (byte :: before, after)
      else (throughMarker marker marker rest).map fun (before, after) => (byte :: before, after)

def cutAt (marker : Bytes) (bytes : Bytes) : Option (Bytes × Bytes) :=
  (throughMarker marker marker bytes).map fun (through, after) =>
    (through.take (through.length - marker.length), after)

def skipBlank : Bytes → Bytes
  | [] => []
  | byte :: rest =>
      if byte = 0x20 ∨ byte = 0x09 ∨ byte = 0x0a ∨ byte = 0x0d then skipBlank rest
      else byte :: rest

structure Frame where
  opening : Bytes
  headers : Bytes
  data : Bytes
  closing : Bytes
  deriving DecidableEq, Repr

def beginMarker : Bytes := Utf8.encode "-----BEGIN "
def endMarker : Bytes := Utf8.encode "-----END "
def dashes : Bytes := Utf8.encode "-----"

def partHeaders (body : Bytes) : Bytes × Bytes :=
  match cutAt [0x0a, 0x0a] body with
  | some parts => parts
  | none =>
      match cutAt [0x0d, 0x0a, 0x0d, 0x0a] body with
      | some parts => parts
      | none => ([], body)

def frame? (bytes : Bytes) : Option Frame := do
  let (_, rest) ← cutAt beginMarker bytes
  let (opening, rest) ← cutAt dashes rest
  let (body, rest) ← cutAt endMarker (skipBlank rest)
  let (closing, _) ← cutAt dashes rest
  let (headers, data) := partHeaders body
  return ⟨opening, headers, data, closing⟩

/-- Octets as a text. -/
def text (bytes : Bytes) : Except Fault (List Char) :=
  match Utf8.decodeChars bytes with
  | .ok text => .ok text
  | .error fault => .error (.notText fault)

def Frame.block (frame : Frame) : Except Fault Block := do
  let opening ← text frame.opening
  if opening.isEmpty then throw .unlabelledBegin
  let closing ← text frame.closing
  if closing.isEmpty then throw .unlabelledEnd
  if opening ≠ closing then throw (.mismatch (String.ofList opening) (String.ofList closing))
  let data ← text frame.data
  let contents ← match Base64.decodePadded
      (Utf8.encodeChars (data.filter fun char => !Text.isBlank char)) with
    | .ok contents => pure contents
    | .error fault => throw (.data fault)
  let headers ← text frame.headers
  match (Text.lines headers).find? fun line => !line.contains ':' with
  | some line => throw (.header (String.ofList line))
  | none => return ⟨String.ofList opening, contents⟩

def parse (bytes : Bytes) : Except Fault Block :=
  match frame? bytes with
  | some frame => frame.block
  | none => .error .unframed

/-- Symbols in lines of 64; `lines` bounds the number of lines. -/
def wrap : (lines : Nat) → List Char → List Char
  | 0, _ => []
  | _ + 1, [] => []
  | lines + 1, symbols => symbols.take 64 ++ ['\r', '\n'] ++ wrap lines (symbols.drop 64)

/-- Write a block, with lines ended by carriage return and line feed. -/
def render (block : Block) : String :=
  let symbols := Base64.encodePadded block.contents
  "-----BEGIN " ++ block.label ++ "-----\r\n" ++ String.ofList (wrap symbols.length symbols) ++
    "-----END " ++ block.label ++ "-----\r\n"

end Turnstile.Pem
