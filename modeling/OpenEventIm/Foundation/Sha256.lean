import OpenEventIm.Foundation.JsonText

/-!
# SHA-256

The hash function of FIPS 180-4 on byte lists, with its digest in hexadecimal.
A message is padded to whole blocks of sixty-four bytes; each block is expanded
to sixty-four words and compressed into the eight words of the state.
-/

namespace OpenEventIm.Foundation.Sha256

abbrev Word := BitVec 32

/-- The eight working variables. -/
structure State where
  a : Word
  b : Word
  c : Word
  d : Word
  e : Word
  f : Word
  g : Word
  h : Word

namespace State

def words (state : State) : List Word :=
  [state.a, state.b, state.c, state.d, state.e, state.f, state.g, state.h]

def add (left right : State) : State where
  a := left.a + right.a
  b := left.b + right.b
  c := left.c + right.c
  d := left.d + right.d
  e := left.e + right.e
  f := left.f + right.f
  g := left.g + right.g
  h := left.h + right.h

end State

def initial : State where
  a := 0x6a09e667
  b := 0xbb67ae85
  c := 0x3c6ef372
  d := 0xa54ff53a
  e := 0x510e527f
  f := 0x9b05688c
  g := 0x1f83d9ab
  h := 0x5be0cd19

def roundConstants : List Word := [
  0x428a2f98, 0x71374491, 0xb5c0fbcf, 0xe9b5dba5, 0x3956c25b, 0x59f111f1,
  0x923f82a4, 0xab1c5ed5, 0xd807aa98, 0x12835b01, 0x243185be, 0x550c7dc3,
  0x72be5d74, 0x80deb1fe, 0x9bdc06a7, 0xc19bf174, 0xe49b69c1, 0xefbe4786,
  0x0fc19dc6, 0x240ca1cc, 0x2de92c6f, 0x4a7484aa, 0x5cb0a9dc, 0x76f988da,
  0x983e5152, 0xa831c66d, 0xb00327c8, 0xbf597fc7, 0xc6e00bf3, 0xd5a79147,
  0x06ca6351, 0x14292967, 0x27b70a85, 0x2e1b2138, 0x4d2c6dfc, 0x53380d13,
  0x650a7354, 0x766a0abb, 0x81c2c92e, 0x92722c85, 0xa2bfe8a1, 0xa81a664b,
  0xc24b8b70, 0xc76c51a3, 0xd192e819, 0xd6990624, 0xf40e3585, 0x106aa070,
  0x19a4c116, 0x1e376c08, 0x2748774c, 0x34b0bcb5, 0x391c0cb3, 0x4ed8aa4a,
  0x5b9cca4f, 0x682e6ff3, 0x748f82ee, 0x78a5636f, 0x84c87814, 0x8cc70208,
  0x90befffa, 0xa4506ceb, 0xbef9a3f7, 0xc67178f2]

def bigSigma0 (word : Word) : Word :=
  word.rotateRight 2 ^^^ word.rotateRight 13 ^^^ word.rotateRight 22

def bigSigma1 (word : Word) : Word :=
  word.rotateRight 6 ^^^ word.rotateRight 11 ^^^ word.rotateRight 25

def smallSigma0 (word : Word) : Word :=
  word.rotateRight 7 ^^^ word.rotateRight 18 ^^^ (word >>> 3)

def smallSigma1 (word : Word) : Word :=
  word.rotateRight 17 ^^^ word.rotateRight 19 ^^^ (word >>> 10)

def choose (x y z : Word) : Word := (x &&& y) ^^^ (~~~x &&& z)

def majority (x y z : Word) : Word := (x &&& y) ^^^ (x &&& z) ^^^ (y &&& z)

/-! ## Blocks -/

/-- Four bytes, the most significant one first. -/
def wordOf (bytes : List UInt8) : Word :=
  bytes.foldl (fun word byte => word <<< 8 ||| byte.toBitVec.setWidth 32) 0

/-- The words of a block, the last one first. -/
def blockWords : Nat → List UInt8 → List Word → List Word
  | 0, _, words => words
  | count + 1, bytes, words =>
      blockWords count (bytes.drop 4) (wordOf (bytes.take 4) :: words)

/-- Further words of the schedule, the last one first. -/
def extend : Nat → List Word → List Word
  | 0, words => words
  | count + 1, words =>
      extend count ((smallSigma1 (words.getD 1 0) + words.getD 6 0 +
        smallSigma0 (words.getD 14 0) + words.getD 15 0) :: words)

/-- The sixty-four words of a block. -/
def schedule (block : List UInt8) : List Word :=
  (extend 48 (blockWords 16 block [])).reverse

def round (state : State) (step : Word × Word) : State :=
  let t1 := state.h + bigSigma1 state.e +
    choose state.e state.f state.g + step.1 + step.2
  let t2 := bigSigma0 state.a + majority state.a state.b state.c
  { a := t1 + t2
    b := state.a
    c := state.b
    d := state.c
    e := state.d + t1
    f := state.e
    g := state.f
    h := state.g }

def compress (state : State) (block : List UInt8) : State :=
  state.add ((roundConstants.zip (schedule block)).foldl round state)

/-! ## Messages -/

/-- The number of bits of a message as eight bytes. -/
def lengthBytes (bytes : Nat) : List UInt8 :=
  (List.range 8).map fun index => .ofNat (8 * bytes / 256 ^ (7 - index))

/-- A message with its padding. -/
def padded (message : List UInt8) : List UInt8 :=
  message ++ 0x80 :: (List.replicate ((119 - message.length % 64) % 64) 0 ++
    lengthBytes message.length)

/-- The state after the first blocks. -/
def compressBlocks : Nat → List UInt8 → State → State
  | 0, _, state => state
  | count + 1, bytes, state =>
      compressBlocks count (bytes.drop 64) (compress state (bytes.take 64))

/-- The state after a whole message. -/
def hash (message : List UInt8) : State :=
  compressBlocks ((padded message).length / 64) (padded message) initial

/-- Padding fills whole blocks. -/
theorem length_padded (message : List UInt8) :
    (padded message).length % 64 = 0 := by
  simp only [padded, List.length_append, List.length_cons,
    List.length_replicate, lengthBytes, List.length_map, List.length_range]
  omega

/-! ## Digests -/

/-- The eight hexadecimal digits of a word. -/
def wordDigits (word : Word) : List Char :=
  (List.range 8).map fun index =>
    JsonText.hexDigit (word.toNat / 16 ^ (7 - index) % 16)

/-- `hexdigest`. -/
def hexdigest (message : List UInt8) : List Char :=
  (hash message).words.flatMap wordDigits

theorem length_hexdigest (message : List UInt8) :
    (hexdigest message).length = 64 := by
  simp [hexdigest, State.words, wordDigits]

example : String.ofList (hexdigest [0x61, 0x62, 0x63]) =
    "ba7816bf8f01cfea414140de5dae2223b00361a396177a9cb410ff61f20015ad" := by
  decide +kernel

end OpenEventIm.Foundation.Sha256
