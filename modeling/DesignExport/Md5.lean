set_option autoImplicit false

/-! The MD5 digest. A message is padded to blocks of sixteen words, and each
block is mixed into four words of state in sixty-four steps. -/

namespace DesignExport.Md5

structure Digest where
  a : UInt32
  b : UInt32
  c : UInt32
  d : UInt32
deriving DecidableEq

def Digest.initial : Digest :=
  ⟨0x67452301, 0xefcdab89, 0x98badcfe, 0x10325476⟩

def additions : List UInt32 :=
  [
    0xd76aa478, 0xe8c7b756, 0x242070db, 0xc1bdceee, 0xf57c0faf, 0x4787c62a,
    0xa8304613, 0xfd469501, 0x698098d8, 0x8b44f7af, 0xffff5bb1, 0x895cd7be,
    0x6b901122, 0xfd987193, 0xa679438e, 0x49b40821, 0xf61e2562, 0xc040b340,
    0x265e5a51, 0xe9b6c7aa, 0xd62f105d, 0x02441453, 0xd8a1e681, 0xe7d3fbc8,
    0x21e1cde6, 0xc33707d6, 0xf4d50d87, 0x455a14ed, 0xa9e3e905, 0xfcefa3f8,
    0x676f02d9, 0x8d2a4c8a, 0xfffa3942, 0x8771f681, 0x6d9d6122, 0xfde5380c,
    0xa4beea44, 0x4bdecfa9, 0xf6bb4b60, 0xbebfbc70, 0x289b7ec6, 0xeaa127fa,
    0xd4ef3085, 0x04881d05, 0xd9d4d039, 0xe6db99e5, 0x1fa27cf8, 0xc4ac5665,
    0xf4292244, 0x432aff97, 0xab9423a7, 0xfc93a039, 0x655b59c3, 0x8f0ccc92,
    0xffeff47d, 0x85845dd1, 0x6fa87e4f, 0xfe2ce6e0, 0xa3014314, 0x4e0811a1,
    0xf7537e82, 0xbd3af235, 0x2ad7d2bb, 0xeb86d391
  ]

/-- The rotations of the four steps that each round repeats. -/
def rotations : List (List UInt32) :=
  [[7, 12, 17, 22], [5, 9, 14, 20], [4, 11, 16, 23], [6, 10, 15, 21]]

def rotation (step : Nat) : UInt32 :=
  (rotations.getD (step / 16) []).getD (step % 4) 0

def rotateLeft (word amount : UInt32) : UInt32 :=
  (word <<< amount) ||| (word >>> (32 - amount))

/-- How a step combines three of the words, and which word of the block it takes. -/
def combine (step : Nat) (b c d : UInt32) : UInt32 × Nat :=
  match step / 16 with
  | 0 => ((b &&& c) ||| (~~~b &&& d), step)
  | 1 => ((d &&& b) ||| (~~~d &&& c), (5 * step + 1) % 16)
  | 2 => (b ^^^ c ^^^ d, (3 * step + 5) % 16)
  | _ => (c ^^^ (b ||| ~~~d), (7 * step) % 16)

def mixStep (block : List UInt32) (state : Digest) (step : Nat) : Digest :=
  let (mixed, place) := combine step state.b state.c state.d
  let sum := mixed + state.a + additions.getD step 0 + block.getD place 0
  ⟨state.d, state.b + rotateLeft sum (rotation step), state.b, state.c⟩

def mixBlock (state : Digest) (block : List UInt32) : Digest :=
  let mixed := (List.range 64).foldl (mixStep block) state
  ⟨state.a + mixed.a, state.b + mixed.b, state.c + mixed.c, state.d + mixed.d⟩

/-- Bytes of a number, the lowest first. -/
def lowestFirst : Nat → Nat → List UInt8
  | 0, _ => []
  | count + 1, value => UInt8.ofNat (value % 256) :: lowestFirst count (value / 256)

/-- A one bit, zeros up to eight bytes before the end of a block, and the length
in bits. -/
def padded (message : List UInt8) : List UInt8 :=
  let length := message.length
  let zeros := (119 - length % 64) % 64
  message ++ 0x80 :: List.replicate zeros 0 ++ lowestFirst 8 (8 * length)

def word (bytes : List UInt8) : UInt32 :=
  UInt32.ofNat (bytes.foldr (fun byte value => 256 * value + byte.toNat) 0)

/-- Cuts a list into pieces of one size; a shorter rest is left out. -/
def pieces {β : Type} (size : Nat) : Nat → List β → List (List β)
  | 0, _ => []
  | count + 1, items => items.take size :: pieces size count (items.drop size)

def blocks (message : List UInt8) : List (List UInt32) :=
  let bytes := padded message
  (pieces 64 (bytes.length / 64) bytes).map (fun block => (pieces 4 16 block).map word)

def digest (message : List UInt8) : Digest :=
  (blocks message).foldl mixBlock Digest.initial

def hexDigit (value : Nat) : Char :=
  "0123456789abcdef".toList.getD value '0'

def hexByte (byte : UInt8) : List Char :=
  [hexDigit (byte.toNat / 16), hexDigit (byte.toNat % 16)]

/-- Thirty-two hexadecimal digits. -/
def Digest.hex (digest : Digest) : String :=
  String.ofList ([digest.a, digest.b, digest.c, digest.d].flatMap
    (fun part => (lowestFirst 4 part.toNat).flatMap hexByte))

def hexOfText (text : String) : String :=
  (digest text.toUTF8.toList).hex

end DesignExport.Md5
