/-!
# The hash behind signatures and marks

A message is padded to whole blocks of sixty-four bytes, and the blocks are worked one after another
into a state of eight words.  The digest is the state written out, so it always has thirty-two
bytes.
-/

namespace SignOn.Hash

set_option autoImplicit false

/-! ## Words and state -/

/-- The eight words that the blocks of a message are worked into. -/
structure State where
  a : UInt32
  b : UInt32
  c : UInt32
  d : UInt32
  e : UInt32
  f : UInt32
  g : UInt32
  h : UInt32

/-- The state before the first block. -/
def start : State :=
  ⟨0x6a09e667, 0xbb67ae85, 0x3c6ef372, 0xa54ff53a, 0x510e527f, 0x9b05688c, 0x1f83d9ab, 0x5be0cd19⟩

/-- One constant for every round. -/
def roundConstants : List UInt32 :=
  [0x428a2f98, 0x71374491, 0xb5c0fbcf, 0xe9b5dba5, 0x3956c25b, 0x59f111f1, 0x923f82a4, 0xab1c5ed5,
   0xd807aa98, 0x12835b01, 0x243185be, 0x550c7dc3, 0x72be5d74, 0x80deb1fe, 0x9bdc06a7, 0xc19bf174,
   0xe49b69c1, 0xefbe4786, 0x0fc19dc6, 0x240ca1cc, 0x2de92c6f, 0x4a7484aa, 0x5cb0a9dc, 0x76f988da,
   0x983e5152, 0xa831c66d, 0xb00327c8, 0xbf597fc7, 0xc6e00bf3, 0xd5a79147, 0x06ca6351, 0x14292967,
   0x27b70a85, 0x2e1b2138, 0x4d2c6dfc, 0x53380d13, 0x650a7354, 0x766a0abb, 0x81c2c92e, 0x92722c85,
   0xa2bfe8a1, 0xa81a664b, 0xc24b8b70, 0xc76c51a3, 0xd192e819, 0xd6990624, 0xf40e3585, 0x106aa070,
   0x19a4c116, 0x1e376c08, 0x2748774c, 0x34b0bcb5, 0x391c0cb3, 0x4ed8aa4a, 0x5b9cca4f, 0x682e6ff3,
   0x748f82ee, 0x78a5636f, 0x84c87814, 0x8cc70208, 0x90befffa, 0xa4506ceb, 0xbef9a3f7, 0xc67178f2]

/-- A word turned to the right by a number of bits. -/
def rotate (word amount : UInt32) : UInt32 :=
  (word >>> amount) ||| (word <<< (32 - amount))

/-- The word of four bytes, the highest first. -/
def wordOfBytes (first second third fourth : UInt8) : UInt32 :=
  (first.toUInt32 <<< 24) ||| (second.toUInt32 <<< 16) ||| (third.toUInt32 <<< 8) ||| fourth.toUInt32

/-- The four bytes of a word, the highest first. -/
def bytesOfWord (word : UInt32) : List UInt8 :=
  [(word >>> 24).toUInt8, (word >>> 16).toUInt8, (word >>> 8).toUInt8, word.toUInt8]

/-- The words of a sequence of bytes; bytes beyond the last whole word are passed over. -/
def wordsOfBytes : List UInt8 → List UInt32
  | first :: second :: third :: fourth :: rest =>
      wordOfBytes first second third fourth :: wordsOfBytes rest
  | _ => []

/-! ## One block -/

/-- The words of a block followed by those that the schedule derives from them, the latest first:
every further word mixes the words two, seven, fifteen and sixteen places before it. -/
def extendSchedule : Nat → Array UInt32 → Array UInt32
  | 0, words => words
  | count + 1, words =>
      let near := words.getD (words.size - 2) 0
      let far := words.getD (words.size - 15) 0
      let mixedNear := rotate near 17 ^^^ rotate near 19 ^^^ (near >>> 10)
      let mixedFar := rotate far 7 ^^^ rotate far 18 ^^^ (far >>> 3)
      extendSchedule count
        (words.push
          (mixedNear + words.getD (words.size - 7) 0 + mixedFar + words.getD (words.size - 16) 0))

/-- One round on the state, with its constant and its word of the schedule. -/
def round (s : State) (constant word : UInt32) : State :=
  let mixE := rotate s.e 6 ^^^ rotate s.e 11 ^^^ rotate s.e 25
  let choice := (s.e &&& s.f) ^^^ (~~~s.e &&& s.g)
  let first := s.h + mixE + choice + constant + word
  let mixA := rotate s.a 2 ^^^ rotate s.a 13 ^^^ rotate s.a 22
  let majority := (s.a &&& s.b) ^^^ (s.a &&& s.c) ^^^ (s.b &&& s.c)
  ⟨first + (mixA + majority), s.a, s.b, s.c, s.d + first, s.e, s.f, s.g⟩

/-- Works one block of sixteen words into the state. -/
def absorb (s : State) (block : List UInt32) : State :=
  let schedule := (extendSchedule 48 block.toArray).toList
  let t := (roundConstants.zip schedule).foldl (fun t pair => round t pair.1 pair.2) s
  ⟨s.a + t.a, s.b + t.b, s.c + t.c, s.d + t.d, s.e + t.e, s.f + t.f, s.g + t.g, s.h + t.h⟩

/-! ## Messages -/

/-- The bytes put after a message of the given length: a single one bit, zeros up to eight bytes
before the end of a block, and the length in bits. -/
def padding (length : Nat) : List UInt8 :=
  0x80 :: List.replicate ((119 - length % 64) % 64) 0 ++
    (List.range 8).map fun place => UInt8.ofNat (length * 8 / Nat.pow 256 (7 - place))

/-- Works the given number of blocks of words into a state, one after another. -/
def absorbAll : Nat → List UInt32 → State → State
  | 0, _, s => s
  | count + 1, words, s => absorbAll count (words.drop 16) (absorb s (words.take 16))

/-- The thirty-two bytes of the digest of a message. -/
def sha256 (message : List UInt8) : List UInt8 :=
  let words := wordsOfBytes (message ++ padding message.length)
  let s := absorbAll (words.length / 16) words start
  [s.a, s.b, s.c, s.d, s.e, s.f, s.g, s.h].flatMap bytesOfWord

theorem length_sha256 (message : List UInt8) : (sha256 message).length = 32 := by
  simp [sha256, bytesOfWord]

end SignOn.Hash
