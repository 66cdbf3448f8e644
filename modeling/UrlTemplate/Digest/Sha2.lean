/-!
# The SHA-2 family

One definition covers the members of the family: `Variant w` holds the width of a word, the counts
and distances by which the members differ, and `Variant.hash` is the common algorithm. The constants
are computed from their definition, the leading bits of the fractional parts of roots of primes.
-/

namespace UrlTemplate.Sha2

/-! ## Constants -/

/-- The greatest number of the form `root + r` with `r < 2 ^ bits` whose `k`-th power is at most
`n`. -/
def rootFrom (k n : Nat) : (bits : Nat) → (root : Nat) → Nat
  | 0, root => root
  | bits + 1, root =>
    let larger := root + Nat.pow 2 bits
    rootFrom k n bits (if Nat.pow larger k ≤ n then larger else root)

/-- The first `w` bits of the fractional part of the `k`-th root of `n`, which is below 2^16. -/
def rootFraction (w k n : Nat) : BitVec w :=
  BitVec.ofNat w (rootFrom k (n * Nat.pow 2 (k * w)) (w + 16) 0)

/-- The primes up to 409, of which there are eighty. -/
def primes : List Nat :=
  (List.range 410).filter fun n => 2 ≤ n && (List.range n).all fun d => d < 2 || n % d ≠ 0

/-! ## The algorithm -/

/-- Distances of the three copies of a word that a mixing function combines. -/
structure Distances where
  first : Nat
  second : Nat
  third : Nat

/-- A member of the family with words of `w` bits. -/
structure Variant (w : Nat) where
  /-- The constants, one for each round. -/
  constants : List (BitVec w)
  /-- The eight words that hashing starts with. -/
  start : List (BitVec w)
  /-- How many words of the final state make the digest. -/
  outputWords : Nat
  upper0 : Distances
  upper1 : Distances
  lower0 : Distances
  lower1 : Distances

variable {w : Nat}

/-- The sum without carry of three rotations. -/
def Distances.rotations (d : Distances) (x : BitVec w) : BitVec w :=
  x.rotateRight d.first ^^^ x.rotateRight d.second ^^^ x.rotateRight d.third

/-- The sum without carry of two rotations and a shift. -/
def Distances.shifted (d : Distances) (x : BitVec w) : BitVec w :=
  x.rotateRight d.first ^^^ x.rotateRight d.second ^^^ (x >>> d.third)

/-- Takes the bits of `y` where `x` is set and those of `z` elsewhere. -/
def choose (x y z : BitVec w) : BitVec w := (x &&& y) ^^^ (~~~x &&& z)

/-- Takes the bit that at least two of three words have. -/
def majority (x y z : BitVec w) : BitVec w := (x &&& y) ^^^ (x &&& z) ^^^ (y &&& z)

/-- The eight working words and the next sixteen words of the message schedule. -/
structure Round (w : Nat) where
  state : List (BitVec w)
  schedule : List (BitVec w)

namespace Variant

/-- One round: mixes the next word of the schedule in and extends the schedule by one word. -/
def step (v : Variant w) (r : Round w) (constant : BitVec w) : Round w :=
  match r.state, r.schedule with
  | [a, b, c, d, e, f, g, h], word :: schedule =>
    let t₁ := h + v.upper1.rotations e + choose e f g + constant + word
    let t₂ := v.upper0.rotations a + majority a b c
    let ahead (i : Nat) := schedule.getD i 0
    let next := v.lower1.shifted (ahead 13) + ahead 8 + v.lower0.shifted (ahead 0) + word
    ⟨[t₁ + t₂, a, b, c, d + t₁, e, f, g], schedule ++ [next]⟩
  | _, _ => r

/-- Hashes one block of sixteen words into the state. -/
def compress (v : Variant w) (state block : List (BitVec w)) : List (BitVec w) :=
  List.zipWith (· + ·) state (v.constants.foldl v.step ⟨state, block⟩).state

end Variant

/-! ## Bytes and words -/

/-- The number that some bytes stand for, most significant first. -/
def ofBytes (bytes : List UInt8) : Nat :=
  bytes.foldl (fun n b => 256 * n + b.toNat) 0

/-- The last `count` bytes of a number, most significant first. -/
def toBytes : (count n : Nat) → List UInt8
  | 0, _ => []
  | count + 1, n => toBytes count (n / 256) ++ [UInt8.ofNat n]

/-- Cuts a list into pieces of `size + 1` items. -/
def pieces {α : Type} (size : Nat) : List α → List (List α)
  | [] => []
  | x :: rest => (x :: rest.take size) :: pieces size (rest.drop size)
  termination_by items => items.length
  decreasing_by
    simp only [List.length_drop, List.length_cons]
    omega

/-- The message with a one bit, zeros and its length in bits after it, a whole number of blocks of
`16 * size` bytes. -/
def pad (size : Nat) (message : List UInt8) : List UInt8 :=
  let block := 16 * size
  let used := message.length + 1 + 2 * size
  message ++ 0x80 :: List.replicate ((block - used % block) % block) 0
    ++ toBytes (2 * size) (8 * message.length)

/-- The digest of a message. -/
def Variant.hash (v : Variant w) (message : List UInt8) : List UInt8 :=
  let size := w / 8
  let words := (pieces (size - 1) (pad size message)).map fun word =>
    BitVec.ofNat w (ofBytes word)
  let final := (pieces 15 words).foldl v.compress v.start
  (final.take v.outputWords).flatMap fun word => toBytes size word.toNat

/-! ## The members -/

/-- SHA-256. -/
def sha256 : Variant 32 where
  constants := (primes.take 64).map (rootFraction 32 3)
  start := (primes.take 8).map (rootFraction 32 2)
  outputWords := 8
  upper0 := ⟨2, 13, 22⟩
  upper1 := ⟨6, 11, 25⟩
  lower0 := ⟨7, 18, 3⟩
  lower1 := ⟨17, 19, 10⟩

/-- SHA-512. -/
def sha512 : Variant 64 where
  constants := primes.map (rootFraction 64 3)
  start := (primes.take 8).map (rootFraction 64 2)
  outputWords := 8
  upper0 := ⟨28, 34, 39⟩
  upper1 := ⟨14, 18, 41⟩
  lower0 := ⟨1, 8, 7⟩
  lower1 := ⟨19, 61, 6⟩

/-- SHA-384: SHA-512 with another start, cut after six words. -/
def sha384 : Variant 64 :=
  { sha512 with
    start := ((primes.drop 8).take 8).map (rootFraction 64 2)
    outputWords := 6 }

end UrlTemplate.Sha2
