import SignedUpgrade.Text.Hex

/-!
# SHA-256

The digest by which an installer is known: the content is padded to blocks of sixty-four bytes, and
each block is mixed into a state of eight words.

* `Sha256.padded` — a content with its padding;
* `Sha256.digest` — the digest of a content;
* `Sha256.Progress` — the digest of a content that arrives in pieces;
* `Sha256.hexDigest` — the digest as it is shown.
-/

namespace SignedUpgrade.Text.Sha256

/-- The state between blocks. -/
structure State where
  a : UInt32
  b : UInt32
  c : UInt32
  d : UInt32
  e : UInt32
  f : UInt32
  g : UInt32
  h : UInt32
  deriving DecidableEq, Repr, Inhabited

/-- The state before the first block. -/
def start : State :=
  ⟨0x6a09e667, 0xbb67ae85, 0x3c6ef372, 0xa54ff53a, 0x510e527f, 0x9b05688c, 0x1f83d9ab, 0x5be0cd19⟩

/-- The constants of the sixty-four rounds. -/
def constants : List UInt32 :=
  [0x428a2f98, 0x71374491, 0xb5c0fbcf, 0xe9b5dba5, 0x3956c25b, 0x59f111f1, 0x923f82a4, 0xab1c5ed5,
   0xd807aa98, 0x12835b01, 0x243185be, 0x550c7dc3, 0x72be5d74, 0x80deb1fe, 0x9bdc06a7, 0xc19bf174,
   0xe49b69c1, 0xefbe4786, 0x0fc19dc6, 0x240ca1cc, 0x2de92c6f, 0x4a7484aa, 0x5cb0a9dc, 0x76f988da,
   0x983e5152, 0xa831c66d, 0xb00327c8, 0xbf597fc7, 0xc6e00bf3, 0xd5a79147, 0x06ca6351, 0x14292967,
   0x27b70a85, 0x2e1b2138, 0x4d2c6dfc, 0x53380d13, 0x650a7354, 0x766a0abb, 0x81c2c92e, 0x92722c85,
   0xa2bfe8a1, 0xa81a664b, 0xc24b8b70, 0xc76c51a3, 0xd192e819, 0xd6990624, 0xf40e3585, 0x106aa070,
   0x19a4c116, 0x1e376c08, 0x2748774c, 0x34b0bcb5, 0x391c0cb3, 0x4ed8aa4a, 0x5b9cca4f, 0x682e6ff3,
   0x748f82ee, 0x78a5636f, 0x84c87814, 0x8cc70208, 0x90befffa, 0xa4506ceb, 0xbef9a3f7, 0xc67178f2]

/-- A word turned to the right. -/
def turn (x : UInt32) (n : UInt32) : UInt32 :=
  (x >>> n) ||| (x <<< (32 - n))

/-! ## Padding -/

/-- The eight bytes of a length in bits. -/
def lengthBytes (bits : Nat) : Bytes :=
  (List.range 8).map fun i => (bits / Nat.pow 256 (7 - i)).toUInt8

/-- The padding after a content of some length: a one bit, zeros, and the length. -/
def padding (length : Nat) : Bytes :=
  0x80 :: (List.replicate ((119 - length % 64) % 64) 0 ++ lengthBytes (length * 8))

/-- A content with its padding. -/
def padded (content : Bytes) : Bytes :=
  content ++ padding content.length

/-! ## Blocks -/

/-- The words of four bytes each. -/
def words : Bytes → List UInt32
  | a :: b :: c :: d :: r =>
    ((a.toUInt32 <<< 24) ||| (b.toUInt32 <<< 16) ||| (c.toUInt32 <<< 8) ||| d.toUInt32) :: words r
  | _ => []

/-- The word that follows sixteen words, of which the latest stands first. -/
def nextWord (latest : List UInt32) : UInt32 :=
  let w := fun i => (latest[i]?).getD 0
  let x := w 14
  let y := w 1
  let s0 := turn x 7 ^^^ turn x 18 ^^^ (x >>> 3)
  let s1 := turn y 17 ^^^ turn y 19 ^^^ (y >>> 10)
  w 15 + s0 + w 6 + s1

/-- Words with `count` more words, the latest first. -/
def extend (latest : List UInt32) : Nat → List UInt32
  | 0 => latest
  | count + 1 => extend (nextWord latest :: latest) count

/-- The words of the sixty-four rounds of a block. -/
def schedule (block : List UInt32) : List UInt32 :=
  (extend block.reverse 48).reverse

/-- One round. -/
def round (s : State) (input : UInt32 × UInt32) : State :=
  let s1 := turn s.e 6 ^^^ turn s.e 11 ^^^ turn s.e 25
  let choice := (s.e &&& s.f) ^^^ ((~~~ s.e) &&& s.g)
  let t1 := s.h + s1 + choice + input.1 + input.2
  let s0 := turn s.a 2 ^^^ turn s.a 13 ^^^ turn s.a 22
  let majority := (s.a &&& s.b) ^^^ (s.a &&& s.c) ^^^ (s.b &&& s.c)
  ⟨t1 + s0 + majority, s.a, s.b, s.c, s.d + t1, s.e, s.f, s.g⟩

/-- The state after a block. -/
def mix (s : State) (block : List UInt32) : State :=
  let t := (constants.zip (schedule block)).foldl round s
  ⟨s.a + t.a, s.b + t.b, s.c + t.c, s.d + t.d, s.e + t.e, s.f + t.f, s.g + t.g, s.h + t.h⟩

/-- The state after all blocks. -/
def mixAll (s : State) : (count : Nat) → List UInt32 → State
  | 0, _ => s
  | count + 1, ws => mixAll (mix s (ws.take 16)) count (ws.drop 16)

/-- The bytes of a word. -/
def wordBytes (w : UInt32) : Bytes :=
  [(w >>> 24).toUInt8, (w >>> 16).toUInt8, (w >>> 8).toUInt8, w.toUInt8]

/-- The bytes of a state. -/
def stateBytes (s : State) : Bytes :=
  [s.a, s.b, s.c, s.d, s.e, s.f, s.g, s.h].flatMap wordBytes

/-- The state after as many blocks as some bytes fill. -/
def mixBytes (s : State) (bytes : Bytes) : State :=
  mixAll s (bytes.length / 64) (words bytes)

/-- The digest of a content. -/
def digest (content : Bytes) : Bytes :=
  stateBytes (mixBytes start (padded content))

/-- The digest as it is shown. -/
def hexDigest (content : Bytes) : String :=
  Hex.encode (digest content)

/-! ## Contents in pieces

Pieces are mixed in as soon as they fill a block; only the bytes of the block that is not full yet
are kept. -/

/-- A content as far as it has arrived. -/
structure Progress where
  state : State := start
  /-- The bytes that do not fill a block yet. -/
  pending : Bytes := []
  /-- The number of bytes so far. -/
  length : Nat := 0
  deriving DecidableEq, Repr

namespace Progress

/-- The content with one more piece. -/
def add (p : Progress) (piece : Bytes) : Progress :=
  let bytes := p.pending ++ piece
  let full := bytes.length / 64 * 64
  { state := mixBytes p.state (bytes.take full)
    pending := bytes.drop full
    length := p.length + piece.length }

/-- The digest of a content that has arrived. -/
def digest (p : Progress) : Bytes :=
  stateBytes (mixBytes p.state (p.pending ++ padding p.length))

end Progress

end SignedUpgrade.Text.Sha256
