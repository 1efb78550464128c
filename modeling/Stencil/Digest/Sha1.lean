/-!
The SHA-1 digest of a sequence of bytes.
-/

namespace Stencil.Digest

/-- The big-endian bytes of a number, `count` of them. -/
def bigEndian (count n : Nat) : List UInt8 :=
  (List.range count).map fun i => UInt8.ofNat (n / Nat.pow 256 (count - 1 - i))

/-- The number of big-endian bytes. -/
def ofBigEndian (bytes : List UInt8) : Nat :=
  bytes.foldl (fun n byte => n * 256 + byte.toNat) 0

/-- A list cut into pieces of the given size; the last one may be shorter. Size zero gives none. -/
def pieces {α : Type} (size : Nat) (items : List α) : List (List α) :=
  if items.isEmpty ∨ size = 0 then []
  else items.take size :: pieces size (items.drop size)
termination_by items.length
decreasing_by
  rename_i h
  simp only [not_or, List.isEmpty_iff] at h
  have := List.length_pos_iff.2 h.1
  simp only [List.length_drop]
  omega

namespace Sha1

def rotateLeft (word : UInt32) (count : UInt32) : UInt32 :=
  (word <<< count) ||| (word >>> (32 - count))

/-- The five words that the rounds turn over. -/
structure State where
  a : UInt32
  b : UInt32
  c : UInt32
  d : UInt32
  e : UInt32

def State.initial : State :=
  ⟨0x67452301, 0xEFCDAB89, 0x98BADCFE, 0x10325476, 0xC3D2E1F0⟩

/-- The message followed by a one bit, zeros up to a multiple of 64 bytes, and its length in bits as
the last eight bytes. -/
def pad (message : List UInt8) : List UInt8 :=
  let zeros := (119 - message.length % 64) % 64
  message ++ 0x80 :: List.replicate zeros 0 ++ bigEndian 8 (8 * message.length)

/-- The sixteen words of a block extended to eighty. -/
def schedule (block : List UInt8) : Array UInt32 :=
  let start := ((pieces 4 block).map fun word => UInt32.ofNat (ofBigEndian word)).toArray
  (List.range 64).foldl (fun words _ =>
    let back (n : Nat) := words.getD (words.size - n) 0
    words.push (rotateLeft (back 3 ^^^ back 8 ^^^ back 14 ^^^ back 16) 1)) start

/-- The mixing function and the constant of a round. -/
def mix (round : Nat) (s : State) : UInt32 × UInt32 :=
  if round < 20 then ((s.b &&& s.c) ||| (~~~s.b &&& s.d), 0x5A827999)
  else if round < 40 then (s.b ^^^ s.c ^^^ s.d, 0x6ED9EBA1)
  else if round < 60 then ((s.b &&& s.c) ||| (s.b &&& s.d) ||| (s.c &&& s.d), 0x8F1BBCDC)
  else (s.b ^^^ s.c ^^^ s.d, 0xCA62C1D6)

/-- Eighty rounds over one block. -/
def State.absorb (s : State) (block : List UInt8) : State :=
  let words := schedule block
  let t := (List.range 80).foldl (fun (t : State) round =>
    let (mixed, constant) := mix round t
    ⟨rotateLeft t.a 5 + mixed + t.e + constant + words.getD round 0, t.a, rotateLeft t.b 30, t.c,
      t.d⟩) s
  ⟨s.a + t.a, s.b + t.b, s.c + t.c, s.d + t.d, s.e + t.e⟩

end Sha1

/-- The twenty bytes of the digest. -/
def sha1 (message : List UInt8) : List UInt8 :=
  let s := (pieces 64 (Sha1.pad message)).foldl Sha1.State.absorb Sha1.State.initial
  [s.a, s.b, s.c, s.d, s.e].flatMap fun word => bigEndian 4 word.toNat

end Stencil.Digest
