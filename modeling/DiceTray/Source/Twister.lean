import DiceTray.Source.Basic

/-!
# The Mersenne twister

A generator of 32-bit words with a state of 624 words, seeded by an integer of any size. Integers in
a range are drawn by rejection: as many bits as the size of the range has are drawn until they
form a number below that size. The entropy of the system is another such generator, with a seed that
nobody chose.
-/

namespace DiceTray

/-- A state of the generator. -/
structure Twister where
  words : Array UInt32
  /-- How many of them were used. -/
  used : Nat

namespace Twister

/-- The number of words of a state. -/
def size : Nat := 624

/-- The distance between the words that are combined. -/
def offset : Nat := 397

/-- The word at an index. -/
def word (words : Array UInt32) (index : Nat) : UInt32 := words.getD index 0

/-- Spreads the high bits of a word into the low ones. -/
def spread (x : UInt32) : UInt32 := x ^^^ (x >>> 30)

/-- The state that a single word fills; `count` words are still to be added. -/
def fill : Nat → Array UInt32 → Array UInt32
  | 0, words => words
  | count + 1, words =>
    let index := words.size
    fill count (words.push (1812433253 * spread (word words (index - 1)) + UInt32.ofNat index))

/-- Steps on in a state; past its end the last word is copied to the front. -/
def advance (words : Array UInt32) (index : Nat) : Array UInt32 × Nat :=
  if index + 1 < size then (words, index + 1)
  else (words.setIfInBounds 0 (word words (size - 1)), 1)

/-- Mixes the words of a key into a state, the key repeated as often as needed; `rest` is what is
left of the key in this round and `place` the index of its first word. -/
def mixKey (key : List UInt32) : Nat → List UInt32 → Nat → Nat → Array UInt32 → Array UInt32 × Nat
  | 0, _, _, index, words => (words, index)
  | count + 1, rest, place, index, words =>
    match rest with
    | [] => (words, index)
    | k :: rest =>
      let mixed := (word words index ^^^ (spread (word words (index - 1)) * 1664525)) + k +
        UInt32.ofNat place
      let (words, index) := advance (words.setIfInBounds index mixed) index
      if rest.isEmpty then mixKey key count key 0 index words
      else mixKey key count rest (place + 1) index words

/-- Mixes a state with the indices of its words. -/
def mixIndices : Nat → Nat → Array UInt32 → Array UInt32
  | 0, _, words => words
  | count + 1, index, words =>
    let mixed := (word words index ^^^ (spread (word words (index - 1)) * 1566083941)) -
      UInt32.ofNat index
    let (words, index) := advance (words.setIfInBounds index mixed) index
    mixIndices count index words

/-- The words of a number, least significant first; `fuel` is at least the number of words. -/
def keyWords : Nat → Nat → List UInt32
  | 0, _ => []
  | fuel + 1, n =>
    UInt32.ofNat (n % twoTo 32) :: if n < twoTo 32 then [] else keyWords fuel (n / twoTo 32)

/-- The state for a seed, whose sign does not count. -/
def ofSeed (seed : Int) : Twister :=
  let key := keyWords (seed.natAbs.log2 / 32 + 1) seed.natAbs
  let words := fill (size - 1) #[19650218]
  let (words, index) := mixKey key (max size key.length) key 0 1 words
  let words := mixIndices (size - 1) index words
  ⟨words.setIfInBounds 0 0x80000000, size⟩

/-- Computes the words of the next round from `index` on; `count` words are still to be done. -/
def twist : Nat → Nat → Array UInt32 → Array UInt32
  | 0, _, words => words
  | count + 1, index, words =>
    let joined := (word words index &&& 0x80000000) |||
      (word words ((index + 1) % size) &&& 0x7fffffff)
    let image := word words ((index + offset) % size) ^^^ (joined >>> 1) ^^^
      (if joined % 2 = 0 then 0 else 0x9908b0df)
    twist count (index + 1) (words.setIfInBounds index image)

/-- The output for a word of the state. -/
def temper (x : UInt32) : UInt32 :=
  let x := x ^^^ (x >>> 11)
  let x := x ^^^ ((x <<< 7) &&& 0x9d2c5680)
  let x := x ^^^ ((x <<< 15) &&& 0xefc60000)
  x ^^^ (x >>> 18)

/-- Draws a word. -/
def nextWord (generator : Twister) : UInt32 × Twister :=
  match generator with
  | ⟨words, used⟩ =>
    if used < size then
      let output := temper (word words used)
      (output, ⟨words, used + 1⟩)
    else
      let words := twist size 0 words
      let output := temper (word words 0)
      (output, ⟨words, 1⟩)

/-- Draws `count` words, of which the first counts least, and cuts the last down to its `top`
highest bits. -/
def nextWords (top : Nat) : Nat → Twister → Nat × Twister
  | 0, generator => (0, generator)
  | count + 1, generator =>
    let (output, generator) := nextWord generator
    if count = 0 then (output.toNat / twoTo (32 - top), generator)
    else
      let (high, generator) := nextWords top count generator
      (output.toNat + twoTo 32 * high, generator)

/-- Draws a number of `bits` bits. -/
def nextBits (bits : Nat) (generator : Twister) : Nat × Twister :=
  nextWords ((bits - 1) % 32 + 1) ((bits + 31) / 32) generator

/-- How many numbers are drawn before one is reduced instead of rejected. At least half of the
numbers are accepted, so this is never reached in practice. -/
def patience : Nat := 4096

/-- Draws a number below a bound. -/
def nextBelow (bound : Nat) : Nat → Twister → Nat × Twister
  | 0, generator =>
    let (candidate, generator) := nextBits (bound.log2 + 1) generator
    (candidate % bound, generator)
  | tries + 1, generator =>
    let (candidate, generator) := nextBits (bound.log2 + 1) generator
    if candidate < bound then (candidate, generator) else nextBelow bound tries generator

/-- Draws an integer between two bounds. -/
def next (generator : Twister) (minimum maximum : Int) : Except DrawError Int × Twister :=
  let width := maximum + 1 - minimum
  if 0 < width then
    let (drawn, generator) := nextBelow width.toNat patience generator
    (.ok (minimum + drawn), generator)
  else (.error (.ofBounds minimum maximum), generator)

end Twister

/-- A generator that can be seeded to repeat its draws. -/
structure Seeded where
  generator : Twister

/-- The generator for a seed. -/
def Seeded.ofSeed (seed : Int) : Seeded := ⟨.ofSeed seed⟩

instance : RandomSource Seeded where
  draw source minimum maximum :=
    let (result, generator) := source.generator.next minimum maximum
    (result, ⟨generator⟩)
  name _ := "random.Random"

/-- The generator of the system, which is started from entropy. -/
structure Entropy where
  generator : Twister

instance : RandomSource Entropy where
  draw source minimum maximum :=
    let (result, generator) := source.generator.next minimum maximum
    (result, ⟨generator⟩)
  name _ := "secrets.SystemRandom"

/-- A number below a bound is below it, however many tries it took. -/
theorem Twister.nextBelow_lt {bound : Nat} (positive : 0 < bound) (tries : Nat)
    (generator : Twister) : (nextBelow bound tries generator).1 < bound := by
  induction tries generalizing generator with
  | zero => exact Nat.mod_lt _ positive
  | succ tries inductionHypothesis =>
    rw [nextBelow]
    rcases nextBits (bound.log2 + 1) generator with ⟨candidate, rest⟩
    by_cases small : candidate < bound
    · simp [small]
    · simpa [small] using inductionHypothesis rest

end DiceTray
