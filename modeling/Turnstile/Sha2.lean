import Turnstile.Bytes
set_option autoImplicit false

/-! The secure hash functions of the second family, in the three sizes that
RSA signatures name. They share one compression scheme over words of 32 or of 64
bits; a `Variant` holds the numbers in which the three differ. -/

namespace Turnstile.Sha2

/-- Three bitwise moves of one word, combined by exclusive or: two rotations and
a third that is a rotation or a plain shift. -/
structure Mix where
  first : Nat
  second : Nat
  third : Nat

structure Variant where
  wordBits : Nat
  /-- Octets of the message length that ends the padding. -/
  lengthOctets : Nat
  /-- Octets kept of the final state. -/
  digestOctets : Nat
  roundConstants : List Nat
  initialState : List Nat
  stateMixA : Mix
  stateMixE : Mix
  wordMix15 : Mix
  wordMix2 : Mix

def roundConstants32 : List Nat := [
  0x428a2f98, 0x71374491, 0xb5c0fbcf, 0xe9b5dba5, 0x3956c25b, 0x59f111f1, 0x923f82a4,
  0xab1c5ed5, 0xd807aa98, 0x12835b01, 0x243185be, 0x550c7dc3, 0x72be5d74, 0x80deb1fe,
  0x9bdc06a7, 0xc19bf174, 0xe49b69c1, 0xefbe4786, 0x0fc19dc6, 0x240ca1cc, 0x2de92c6f,
  0x4a7484aa, 0x5cb0a9dc, 0x76f988da, 0x983e5152, 0xa831c66d, 0xb00327c8, 0xbf597fc7,
  0xc6e00bf3, 0xd5a79147, 0x06ca6351, 0x14292967, 0x27b70a85, 0x2e1b2138, 0x4d2c6dfc,
  0x53380d13, 0x650a7354, 0x766a0abb, 0x81c2c92e, 0x92722c85, 0xa2bfe8a1, 0xa81a664b,
  0xc24b8b70, 0xc76c51a3, 0xd192e819, 0xd6990624, 0xf40e3585, 0x106aa070, 0x19a4c116,
  0x1e376c08, 0x2748774c, 0x34b0bcb5, 0x391c0cb3, 0x4ed8aa4a, 0x5b9cca4f, 0x682e6ff3,
  0x748f82ee, 0x78a5636f, 0x84c87814, 0x8cc70208, 0x90befffa, 0xa4506ceb, 0xbef9a3f7,
  0xc67178f2]

def roundConstants64 : List Nat := [
  0x428a2f98d728ae22, 0x7137449123ef65cd, 0xb5c0fbcfec4d3b2f, 0xe9b5dba58189dbbc,
  0x3956c25bf348b538, 0x59f111f1b605d019, 0x923f82a4af194f9b, 0xab1c5ed5da6d8118,
  0xd807aa98a3030242, 0x12835b0145706fbe, 0x243185be4ee4b28c, 0x550c7dc3d5ffb4e2,
  0x72be5d74f27b896f, 0x80deb1fe3b1696b1, 0x9bdc06a725c71235, 0xc19bf174cf692694,
  0xe49b69c19ef14ad2, 0xefbe4786384f25e3, 0x0fc19dc68b8cd5b5, 0x240ca1cc77ac9c65,
  0x2de92c6f592b0275, 0x4a7484aa6ea6e483, 0x5cb0a9dcbd41fbd4, 0x76f988da831153b5,
  0x983e5152ee66dfab, 0xa831c66d2db43210, 0xb00327c898fb213f, 0xbf597fc7beef0ee4,
  0xc6e00bf33da88fc2, 0xd5a79147930aa725, 0x06ca6351e003826f, 0x142929670a0e6e70,
  0x27b70a8546d22ffc, 0x2e1b21385c26c926, 0x4d2c6dfc5ac42aed, 0x53380d139d95b3df,
  0x650a73548baf63de, 0x766a0abb3c77b2a8, 0x81c2c92e47edaee6, 0x92722c851482353b,
  0xa2bfe8a14cf10364, 0xa81a664bbc423001, 0xc24b8b70d0f89791, 0xc76c51a30654be30,
  0xd192e819d6ef5218, 0xd69906245565a910, 0xf40e35855771202a, 0x106aa07032bbd1b8,
  0x19a4c116b8d2d0c8, 0x1e376c085141ab53, 0x2748774cdf8eeb99, 0x34b0bcb5e19b48a8,
  0x391c0cb3c5c95a63, 0x4ed8aa4ae3418acb, 0x5b9cca4f7763e373, 0x682e6ff3d6b2b8a3,
  0x748f82ee5defb2fc, 0x78a5636f43172f60, 0x84c87814a1f0ab72, 0x8cc702081a6439ec,
  0x90befffa23631e28, 0xa4506cebde82bde9, 0xbef9a3f7b2c67915, 0xc67178f2e372532b,
  0xca273eceea26619c, 0xd186b8c721c0c207, 0xeada7dd6cde0eb1e, 0xf57d4f7fee6ed178,
  0x06f067aa72176fba, 0x0a637dc5a2c898a6, 0x113f9804bef90dae, 0x1b710b35131c471b,
  0x28db77f523047d84, 0x32caab7b40c72493, 0x3c9ebe0a15c9bebc, 0x431d67c49c100d4c,
  0x4cc5d4becb3e42b6, 0x597f299cfc657e2a, 0x5fcb6fab3ad6faec, 0x6c44198c4a475817]

def sha256 : Variant where
  wordBits := 32
  lengthOctets := 8
  digestOctets := 32
  roundConstants := roundConstants32
  initialState := [
  0x6a09e667, 0xbb67ae85, 0x3c6ef372, 0xa54ff53a, 0x510e527f, 0x9b05688c, 0x1f83d9ab,
  0x5be0cd19]
  stateMixA := ⟨2, 13, 22⟩
  stateMixE := ⟨6, 11, 25⟩
  wordMix15 := ⟨7, 18, 3⟩
  wordMix2 := ⟨17, 19, 10⟩

def sha512 : Variant where
  wordBits := 64
  lengthOctets := 16
  digestOctets := 64
  roundConstants := roundConstants64
  initialState := [
  0x6a09e667f3bcc908, 0xbb67ae8584caa73b, 0x3c6ef372fe94f82b, 0xa54ff53a5f1d36f1,
  0x510e527fade682d1, 0x9b05688c2b3e6c1f, 0x1f83d9abfb41bd6b, 0x5be0cd19137e2179]
  stateMixA := ⟨28, 34, 39⟩
  stateMixE := ⟨14, 18, 41⟩
  wordMix15 := ⟨1, 8, 7⟩
  wordMix2 := ⟨19, 61, 6⟩

/-- The function with digests of 384 bits: the one of 512 bits from another
initial state, cut short. -/
def sha384 : Variant := { sha512 with
  digestOctets := 48
  initialState := [
  0xcbbb9d5dc1059ed8, 0x629a292a367cd507, 0x9159015a3070dd17, 0x152fecd8f70e5939,
  0x67332667ffc00b31, 0x8eb44a8768581511, 0xdb0c2e0d64f98fa7, 0x47b5481dbefa4fa4] }

section Compression

variable {bits : Nat}

def rotations (mix : Mix) (word : BitVec bits) : BitVec bits :=
  word.rotateRight mix.first ^^^ word.rotateRight mix.second ^^^ word.rotateRight mix.third

def rotationsAndShift (mix : Mix) (word : BitVec bits) : BitVec bits :=
  word.rotateRight mix.first ^^^ word.rotateRight mix.second ^^^ word >>> mix.third

def earlier (words : List (BitVec bits)) (position : Nat) : BitVec bits := words.getD position 0

/-- Extend a message schedule, newest word first, by further words. -/
def extendSchedule (variant : Variant) : (further : Nat) → List (BitVec bits) → List (BitVec bits)
  | 0, words => words
  | further + 1, words =>
      let next := rotationsAndShift variant.wordMix2 (earlier words 1) + earlier words 6 +
        rotationsAndShift variant.wordMix15 (earlier words 14) + earlier words 15
      extendSchedule variant further (next :: words)

structure State (bits : Nat) where
  a : BitVec bits
  b : BitVec bits
  c : BitVec bits
  d : BitVec bits
  e : BitVec bits
  f : BitVec bits
  g : BitVec bits
  h : BitVec bits

def State.ofList (words : List (BitVec bits)) : State bits :=
  let word := fun position => words.getD position 0
  ⟨word 0, word 1, word 2, word 3, word 4, word 5, word 6, word 7⟩

def State.toList (state : State bits) : List (BitVec bits) :=
  [state.a, state.b, state.c, state.d, state.e, state.f, state.g, state.h]

def round (variant : Variant) (state : State bits) (input : BitVec bits) : State bits :=
  let choice := (state.e &&& state.f) ^^^ (~~~state.e &&& state.g)
  let majority := (state.a &&& state.b) ^^^ (state.a &&& state.c) ^^^ (state.b &&& state.c)
  let fresh := state.h + rotations variant.stateMixE state.e + choice + input
  ⟨fresh + rotations variant.stateMixA state.a + majority, state.a, state.b, state.c,
    state.d + fresh, state.e, state.f, state.g⟩

def compress (variant : Variant) (state : State bits) (block : List (BitVec bits)) : State bits :=
  let schedule := (extendSchedule variant (variant.roundConstants.length - 16) block.reverse).reverse
  let inputs := List.zipWith (fun word constant => word + BitVec.ofNat bits constant)
    schedule variant.roundConstants
  let final := inputs.foldl (round variant) state
  State.ofList (List.zipWith (· + ·) state.toList final.toList)

end Compression

/-- Cut a list into pieces of a given positive size, the last one possibly
shorter; `pieces` bounds their number. -/
def cut {Item : Type} (size : Nat) : (pieces : Nat) → List Item → List (List Item)
  | 0, _ => []
  | _ + 1, [] => []
  | pieces + 1, items => items.take size :: cut size pieces (items.drop size)

/-- The message with a one bit, zero bits up to a whole number of blocks, and its
length in bits. -/
def padded (variant : Variant) (message : Bytes) : Bytes :=
  let block := variant.wordBits * 2
  let used := message.length + 1 + variant.lengthOctets
  message ++ [0x80] ++ List.replicate ((block - used % block) % block) 0 ++
    Bytes.ofNat variant.lengthOctets (message.length * 8)

def digest (variant : Variant) (message : Bytes) : Bytes :=
  let octets := padded variant message
  let words := (cut (variant.wordBits / 8) octets.length octets).map
    fun word => BitVec.ofNat variant.wordBits (Bytes.toNat word)
  let final := (cut 16 words.length words).foldl (compress variant)
    (State.ofList (variant.initialState.map (BitVec.ofNat variant.wordBits)))
  (final.toList.flatMap fun word => Bytes.ofNat (variant.wordBits / 8) word.toNat).take
    variant.digestOctets

end Turnstile.Sha2
