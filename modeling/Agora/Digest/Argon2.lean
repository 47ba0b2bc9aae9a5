import Agora.Digest.Blake2b

/-!
# Argon2

A digest of a password that takes as much memory and as many passes as one asks for. The memory is
a table of blocks of 1024 bytes, one row for each lane; four vertical slices cut the lanes into
segments. Every block is mixed from the block before it and from an earlier one, chosen by the
contents of memory (`d`), by a counter (`i`), or by a counter in the first two slices of the first
pass and by the contents from then on (`id`).
-/

namespace Agora.Digest.Argon2

/-! ## Blocks -/

/-- Sixteen words, an eighth of a block. -/
structure Row where
  w0 : UInt64
  w1 : UInt64
  w2 : UInt64
  w3 : UInt64
  w4 : UInt64
  w5 : UInt64
  w6 : UInt64
  w7 : UInt64
  w8 : UInt64
  w9 : UInt64
  w10 : UInt64
  w11 : UInt64
  w12 : UInt64
  w13 : UInt64
  w14 : UInt64
  w15 : UInt64
deriving Inhabited

/-- A block of 128 words. -/
structure Block where
  r0 : Row
  r1 : Row
  r2 : Row
  r3 : Row
  r4 : Row
  r5 : Row
  r6 : Row
  r7 : Row
deriving Inhabited

namespace Row

def zero : Row := ⟨0, 0, 0, 0, 0, 0, 0, 0, 0, 0, 0, 0, 0, 0, 0, 0⟩

def ofWords (w : List UInt64) : Row :=
  let g := fun i => w.getD i 0
  ⟨g 0, g 1, g 2, g 3, g 4, g 5, g 6, g 7, g 8, g 9, g 10, g 11, g 12, g 13, g 14, g 15⟩

def words (r : Row) : List UInt64 :=
  [r.w0, r.w1, r.w2, r.w3, r.w4, r.w5, r.w6, r.w7, r.w8, r.w9, r.w10, r.w11, r.w12, r.w13, r.w14,
   r.w15]

def xor (a b : Row) : Row :=
  ⟨a.w0 ^^^ b.w0, a.w1 ^^^ b.w1, a.w2 ^^^ b.w2, a.w3 ^^^ b.w3, a.w4 ^^^ b.w4, a.w5 ^^^ b.w5,
   a.w6 ^^^ b.w6, a.w7 ^^^ b.w7, a.w8 ^^^ b.w8, a.w9 ^^^ b.w9, a.w10 ^^^ b.w10, a.w11 ^^^ b.w11,
   a.w12 ^^^ b.w12, a.w13 ^^^ b.w13, a.w14 ^^^ b.w14, a.w15 ^^^ b.w15⟩

/-- Sum of two words and twice the product of their low halves. -/
@[inline] def blend (x y : UInt64) : UInt64 :=
  x + y + 2 * ((x &&& 0xffffffff) * (y &&& 0xffffffff))

@[inline] def rotate (x n : UInt64) : UInt64 := (x >>> n) ||| (x <<< (64 - n))

/-- Stirs four words. -/
@[inline] def stir (a b c d : UInt64) : UInt64 × UInt64 × UInt64 × UInt64 :=
  let a := blend a b
  let d := rotate (d ^^^ a) 32
  let c := blend c d
  let b := rotate (b ^^^ c) 24
  let a := blend a b
  let d := rotate (d ^^^ a) 16
  let c := blend c d
  let b := rotate (b ^^^ c) 63
  (a, b, c, d)

/-- Stirs the columns, then the diagonals of a square of sixteen words. -/
def permute (r : Row) : Row :=
  let (a0, b0, c0, d0) := stir r.w0 r.w4 r.w8 r.w12
  let (a1, b1, c1, d1) := stir r.w1 r.w5 r.w9 r.w13
  let (a2, b2, c2, d2) := stir r.w2 r.w6 r.w10 r.w14
  let (a3, b3, c3, d3) := stir r.w3 r.w7 r.w11 r.w15
  let (a0, b1, c2, d3) := stir a0 b1 c2 d3
  let (a1, b2, c3, d0) := stir a1 b2 c3 d0
  let (a2, b3, c0, d1) := stir a2 b3 c0 d1
  let (a3, b0, c1, d2) := stir a3 b0 c1 d2
  ⟨a0, a1, a2, a3, b0, b1, b2, b3, c0, c1, c2, c3, d0, d1, d2, d3⟩

end Row

namespace Block

def zero : Block :=
  ⟨.zero, .zero, .zero, .zero, .zero, .zero, .zero, .zero⟩

def ofBytes (bytes : List UInt8) : Block :=
  let rows := (pieces 127 bytes).map fun row =>
    Row.ofWords ((pieces 7 row).map fun w => UInt64.ofNat (ofLittle w))
  let g := fun i => rows.getD i .zero
  ⟨g 0, g 1, g 2, g 3, g 4, g 5, g 6, g 7⟩

def rows (b : Block) : List Row := [b.r0, b.r1, b.r2, b.r3, b.r4, b.r5, b.r6, b.r7]

def words (b : Block) : List UInt64 := b.rows.flatMap Row.words

def bytes (b : Block) : List UInt8 := b.words.flatMap fun w => little 8 w.toNat

def xor (a b : Block) : Block :=
  ⟨a.r0.xor b.r0, a.r1.xor b.r1, a.r2.xor b.r2, a.r3.xor b.r3, a.r4.xor b.r4, a.r5.xor b.r5,
   a.r6.xor b.r6, a.r7.xor b.r7⟩

def permuteRows (b : Block) : Block :=
  ⟨b.r0.permute, b.r1.permute, b.r2.permute, b.r3.permute, b.r4.permute, b.r5.permute,
   b.r6.permute, b.r7.permute⟩

/-- Exchanges rows and columns of the square whose entries are pairs of words. -/
def transpose (b : Block) : Block :=
  let ⟨r0, r1, r2, r3, r4, r5, r6, r7⟩ := b
  ⟨⟨r0.w0, r0.w1, r1.w0, r1.w1, r2.w0, r2.w1, r3.w0, r3.w1,
    r4.w0, r4.w1, r5.w0, r5.w1, r6.w0, r6.w1, r7.w0, r7.w1⟩,
   ⟨r0.w2, r0.w3, r1.w2, r1.w3, r2.w2, r2.w3, r3.w2, r3.w3,
    r4.w2, r4.w3, r5.w2, r5.w3, r6.w2, r6.w3, r7.w2, r7.w3⟩,
   ⟨r0.w4, r0.w5, r1.w4, r1.w5, r2.w4, r2.w5, r3.w4, r3.w5,
    r4.w4, r4.w5, r5.w4, r5.w5, r6.w4, r6.w5, r7.w4, r7.w5⟩,
   ⟨r0.w6, r0.w7, r1.w6, r1.w7, r2.w6, r2.w7, r3.w6, r3.w7,
    r4.w6, r4.w7, r5.w6, r5.w7, r6.w6, r6.w7, r7.w6, r7.w7⟩,
   ⟨r0.w8, r0.w9, r1.w8, r1.w9, r2.w8, r2.w9, r3.w8, r3.w9,
    r4.w8, r4.w9, r5.w8, r5.w9, r6.w8, r6.w9, r7.w8, r7.w9⟩,
   ⟨r0.w10, r0.w11, r1.w10, r1.w11, r2.w10, r2.w11, r3.w10, r3.w11,
    r4.w10, r4.w11, r5.w10, r5.w11, r6.w10, r6.w11, r7.w10, r7.w11⟩,
   ⟨r0.w12, r0.w13, r1.w12, r1.w13, r2.w12, r2.w13, r3.w12, r3.w13,
    r4.w12, r4.w13, r5.w12, r5.w13, r6.w12, r6.w13, r7.w12, r7.w13⟩,
   ⟨r0.w14, r0.w15, r1.w14, r1.w15, r2.w14, r2.w15, r3.w14, r3.w15,
    r4.w14, r4.w15, r5.w14, r5.w15, r6.w14, r6.w15, r7.w14, r7.w15⟩⟩

/-- The block made from two others. -/
def compress (a b : Block) : Block :=
  let r := a.xor b
  r.permuteRows.transpose.permuteRows.transpose.xor r

end Block

/-! ## Parameters -/

/-- What the choice of the earlier block depends on. -/
inductive Kind where
  | d
  | i
  | id
deriving DecidableEq, Repr

def Kind.number : Kind → Nat
  | .d => 0
  | .i => 1
  | .id => 2

/-- In the older version later passes overwrite a block; in the newer one they are added to it. -/
inductive Version where
  | v16
  | v19
deriving DecidableEq, Repr

def Version.number : Version → Nat
  | .v16 => 16
  | .v19 => 19

/-- Memory in units of 1024 bytes, passes and lanes. -/
structure Cost where
  memory : Nat
  passes : Nat
  lanes : Nat
deriving DecidableEq, Repr

/-- Blocks in a segment. -/
def Cost.segment (c : Cost) : Nat := c.memory / (4 * c.lanes)

/-- Blocks in a lane. -/
def Cost.lane (c : Cost) : Nat := 4 * c.segment

/-! ## Filling the memory -/

/-- A segment of a pass. -/
structure Place where
  pass : Nat
  slice : Nat
  lane : Nat

/-- The segment's choices come from a counter. -/
def Kind.counts (kind : Kind) (p : Place) : Bool :=
  match kind with
  | .d => false
  | .i => true
  | .id => p.pass = 0 && p.slice < 2

/-- The choices of a segment that come from a counter: 128 from each value of the counter. -/
def counted (kind : Kind) (cost : Cost) (p : Place) : Array UInt64 :=
  let block := fun n : Nat =>
    let input : Block := { Block.zero with
      r0 := { Row.zero with
        w0 := .ofNat p.pass, w1 := .ofNat p.lane, w2 := .ofNat p.slice,
        w3 := .ofNat (cost.lane * cost.lanes), w4 := .ofNat cost.passes,
        w5 := .ofNat kind.number, w6 := .ofNat (n + 1) } }
    Block.zero.compress (Block.zero.compress input)
  ((List.range ((cost.segment + 127) / 128)).flatMap fun n => (block n).words).toArray

/-- The place in memory that a choice stands for when the block with number `index` of a segment
is made. Among the blocks that may be taken, later ones are taken more often. -/
def reference (cost : Cost) (p : Place) (index : Nat) (choice : UInt64) : Nat :=
  let lane :=
    if p.pass = 0 ∧ p.slice = 0 then p.lane else (choice >>> 32).toNat % cost.lanes
  let finished := if p.pass = 0 then p.slice * cost.segment else cost.lane - cost.segment
  let area :=
    if lane = p.lane then finished + index - 1 else if index = 0 then finished - 1 else finished
  let low := (choice &&& 0xffffffff).toNat
  let back := area * (low * low / UInt32.size) / UInt32.size
  let start := if p.pass = 0 ∨ p.slice = 3 then 0 else (p.slice + 1) * cost.segment
  lane * cost.lane + (start + (area - 1 - back)) % cost.lane

/-- Makes the block with number `index` of a segment. -/
def fillBlock (version : Version) (cost : Cost) (p : Place) (choices : Option (Array UInt64))
    (memory : Array Block) (index : Nat) : Array Block :=
  let column := p.slice * cost.segment + index
  let start := p.lane * cost.lane
  let before := memory.getD (start + (if column = 0 then cost.lane - 1 else column - 1)) .zero
  let choice := match choices with
    | some choices => choices.getD index 0
    | none => before.r0.w0
  let new := before.compress (memory.getD (reference cost p index choice) .zero)
  let place := start + column
  let new :=
    if p.pass = 0 ∨ version = .v16 then new else new.xor (memory.getD place .zero)
  memory.setIfInBounds place new

/-- Fills a segment. The first two blocks of a lane are there from the start. -/
def fillSegment (kind : Kind) (version : Version) (cost : Cost) (memory : Array Block)
    (p : Place) : Array Block :=
  let choices := if kind.counts p then some (counted kind cost p) else none
  let first := if p.pass = 0 ∧ p.slice = 0 then 2 else 0
  (List.range' first (cost.segment - first)).foldl (fillBlock version cost p choices) memory

/-- All segments in the order in which they are filled. -/
def places (cost : Cost) : List Place :=
  (List.range cost.passes).flatMap fun pass => (List.range 4).flatMap fun slice =>
    (List.range cost.lanes).map fun lane => { pass, slice, lane }

/-- The first two blocks of every lane, in a memory that is else empty. -/
def start (cost : Cost) (seed : List UInt8) : Array Block :=
  (List.range cost.lanes).foldl
    (fun memory lane => (List.range 2).foldl
      (fun memory i => memory.setIfInBounds (lane * cost.lane + i)
        (.ofBytes (Blake2b.expand 1024 (seed ++ little 4 i ++ little 4 lane)))) memory)
    (Array.replicate (cost.lane * cost.lanes) Block.zero)

/-- A text with its length in front. -/
def sized (bytes : List UInt8) : List UInt8 := little 4 bytes.length ++ bytes

/-- The digest of `size` bytes of a password with a salt and further data. -/
def hash (kind : Kind) (version : Version) (cost : Cost) (size : Nat)
    (password salt data : List UInt8) : List UInt8 :=
  let seed := Blake2b.hash 64 (little 4 cost.lanes ++ little 4 size ++ little 4 cost.memory ++
    little 4 cost.passes ++ little 4 version.number ++ little 4 kind.number ++ sized password ++
    sized salt ++ sized [] ++ sized data)
  let memory := (places cost).foldl (fillSegment kind version cost) (start cost seed)
  let last := (List.range cost.lanes).foldl
    (fun (block : Block) lane =>
      block.xor (memory.getD (lane * cost.lane + cost.lane - 1) .zero)) .zero
  Blake2b.expand size last.bytes

end Agora.Digest.Argon2
