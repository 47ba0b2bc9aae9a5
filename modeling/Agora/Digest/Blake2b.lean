import Agora.Digest.Words

/-!
# BLAKE2b

A digest of 1 to 64 bytes without a key. Every block of 128 bytes is mixed into a state of eight
words in twelve rounds over sixteen words; the words of the message enter each round in another
order. `expand` puts digests one after the other to give any number of bytes.
-/

namespace Agora.Digest.Blake2b

/-- The words that every mixing starts from. -/
def initial : Vector UInt64 8 :=
  #v[0x6a09e667f3bcc908, 0xbb67ae8584caa73b, 0x3c6ef372fe94f82b, 0xa54ff53a5f1d36f1,
     0x510e527fade682d1, 0x9b05688c2b3e6c1f, 0x1f83d9abfb41bd6b, 0x5be0cd19137e2179]

/-- The order of the words of the message in each round. -/
def orders : List (Vector (Fin 16) 16) :=
  [#v[0, 1, 2, 3, 4, 5, 6, 7, 8, 9, 10, 11, 12, 13, 14, 15],
   #v[14, 10, 4, 8, 9, 15, 13, 6, 1, 12, 0, 2, 11, 7, 5, 3],
   #v[11, 8, 12, 0, 5, 2, 15, 13, 10, 14, 3, 6, 7, 1, 9, 4],
   #v[7, 9, 3, 1, 13, 12, 11, 14, 2, 6, 5, 10, 4, 0, 15, 8],
   #v[9, 0, 5, 7, 2, 4, 10, 15, 14, 1, 11, 12, 6, 8, 3, 13],
   #v[2, 12, 6, 10, 0, 11, 8, 3, 4, 13, 7, 5, 15, 14, 1, 9],
   #v[12, 5, 1, 15, 14, 13, 4, 10, 0, 7, 6, 3, 9, 2, 8, 11],
   #v[13, 11, 7, 14, 12, 1, 3, 9, 5, 0, 15, 4, 8, 6, 2, 10],
   #v[6, 15, 14, 9, 11, 3, 0, 8, 12, 2, 13, 7, 1, 4, 10, 5],
   #v[10, 2, 8, 4, 7, 6, 1, 5, 15, 11, 9, 14, 3, 12, 13, 0],
   #v[0, 1, 2, 3, 4, 5, 6, 7, 8, 9, 10, 11, 12, 13, 14, 15],
   #v[14, 10, 4, 8, 9, 15, 13, 6, 1, 12, 0, 2, 11, 7, 5, 3]]

/-- Moves the bits of a word `n` places to the right, those that fall out coming in again. -/
def rotate (x n : UInt64) : UInt64 := (x >>> n) ||| (x <<< (64 - n))

/-- Mixes two words of the message into four words. -/
def mix (v : Vector UInt64 16) (i j k l : Fin 16) (x y : UInt64) : Vector UInt64 16 :=
  let a := v[i] + v[j] + x
  let d := rotate (v[l] ^^^ a) 32
  let c := v[k] + d
  let b := rotate (v[j] ^^^ c) 24
  let a := a + b + y
  let d := rotate (d ^^^ a) 16
  let c := c + d
  let b := rotate (b ^^^ c) 63
  (((v.set i a).set j b).set k c).set l d

/-- One round: the columns, then the diagonals of a square of sixteen words. -/
def round (m : Vector UInt64 16) (v : Vector UInt64 16) (s : Vector (Fin 16) 16) :
    Vector UInt64 16 :=
  let v := mix v 0 4 8 12 m[s[0]] m[s[1]]
  let v := mix v 1 5 9 13 m[s[2]] m[s[3]]
  let v := mix v 2 6 10 14 m[s[4]] m[s[5]]
  let v := mix v 3 7 11 15 m[s[6]] m[s[7]]
  let v := mix v 0 5 10 15 m[s[8]] m[s[9]]
  let v := mix v 1 6 11 12 m[s[10]] m[s[11]]
  let v := mix v 2 7 8 13 m[s[12]] m[s[13]]
  mix v 3 4 9 14 m[s[14]] m[s[15]]

/-- One block, of which `count` is the number of bytes up to its end. -/
def compress (h : Vector UInt64 8) (block : List UInt8) (count : Nat) (isLast : Bool) :
    Vector UInt64 8 :=
  let words := (pieces 7 block).map fun w => UInt64.ofNat (ofLittle w)
  let m : Vector UInt64 16 := Vector.ofFn fun i => words.getD i 0
  let tweak := #v[0, 0, 0, 0, UInt64.ofNat count, UInt64.ofNat (count / UInt64.size),
    if isLast then 0xffffffffffffffff else 0, 0]
  let v := orders.foldl (round m) (h ++ Vector.zipWith (· ^^^ ·) initial tweak)
  Vector.ofFn fun i => h[i] ^^^ v[i] ^^^ v[i.val + 8]

/-- All blocks, of which `count` bytes were mixed in before. -/
def blocks (h : Vector UInt64 8) (count : Nat) : List (List UInt8) → Vector UInt64 8
  | [] => h
  | [block] => compress h block (count + block.length) true
  | block :: rest =>
    blocks (compress h block (count + block.length) false) (count + block.length) rest

/-- The first `size` bytes of the digest made for that size. -/
def hash (size : Nat) (message : List UInt8) : List UInt8 :=
  let start := initial.set 0 (initial[0] ^^^ 0x01010000 ^^^ UInt64.ofNat size)
  let parts := if message.isEmpty then [[]] else pieces 127 message
  ((blocks start 0 parts).toList.flatMap fun w => little 8 w.toNat).take size

/-- The first halves of `n` digests, each of the digest before it, followed by a last digest of
`size` bytes. -/
def chain (n size : Nat) (seed : List UInt8) : List UInt8 :=
  match n with
  | 0 => hash size seed
  | k + 1 =>
    let next := hash 64 seed
    next.take 32 ++ chain k size next

/-- Any number of bytes from a message. -/
def expand (size : Nat) (message : List UInt8) : List UInt8 :=
  let message := little 4 size ++ message
  if size ≤ 64 then hash size message
  else
    let steps := (size + 31) / 32 - 2
    chain steps (size - 32 * steps) message

end Agora.Digest.Blake2b
