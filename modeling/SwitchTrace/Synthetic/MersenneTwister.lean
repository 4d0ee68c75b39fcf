import SwitchTrace.Synthetic.RandomSource

/-!
# The Mersenne twister

The generator of 32-bit words with period `2 ^ 19937 - 1`. It is seeded with a list of words, for
a whole number the base-`2 ^ 32` digits of its size.

## Main definitions

* `MersenneTwister.ofSeed`, `MersenneTwister.word` — seeding, and the next word.
* `MersenneTwister.source` — the source of random numbers that it makes.

## Main results

* `MersenneTwister.source_sound` — its numbers are in the range that was asked for.
-/

namespace SwitchTrace

/-- The state of the generator: 624 words, of which some are used up. -/
structure MersenneTwister where
  words : Array UInt32
  used : Nat

namespace MersenneTwister

/-- The number of words of the state. -/
def size : Nat := 624

/-! ### Seeding -/

/-- The state words that follow a word, `count` of them, the first having the given place. -/
def spread : Nat → Nat → UInt32 → List UInt32
  | 0, _, _ => []
  | count + 1, place, last =>
    let next : UInt32 := (last ^^^ (last >>> 30)) * 1812433253 + UInt32.ofNat place
    next :: spread count (place + 1) next

/-- The state words of a single word. -/
def ofWord (w : UInt32) : Array UInt32 := (w :: spread (size - 1) 1 w).toArray

/-- A pass of mixing over the state: the place at which it is, from one on, and the words. -/
structure Mixing where
  place : Nat
  words : Array UInt32

/-- Changes the word at the place, given the product of its neighbour, and goes to the next place.
After the last place the last word is copied to the first, and the pass goes on at one. -/
def Mixing.step (factor : UInt32) (change : UInt32 → UInt32) (m : Mixing) : Mixing :=
  let last := m.words.getD (m.place - 1) 0
  let mixed := m.words.getD m.place 0 ^^^ ((last ^^^ (last >>> 30)) * factor)
  let words := m.words.setIfInBounds m.place (change mixed)
  if m.place + 1 < size then ⟨m.place + 1, words⟩
  else ⟨1, words.setIfInBounds 0 (words.getD (size - 1) 0)⟩

/-- The number of words: `2 ^ 32`. -/
def wordCount : Nat := 4294967296

/-- The base-`2 ^ 32` digits of a number, least significant first. Zero has one digit. -/
def digits (n : Nat) : List UInt32 :=
  if n < wordCount then [UInt32.ofNat n] else UInt32.ofNat n :: digits (n / wordCount)
termination_by n
decreasing_by
  simp only [wordCount] at *
  omega

/-- The generator seeded with a whole number. Its sign does not matter. -/
def ofSeed (seed : Int) : MersenneTwister :=
  let key := (digits seed.natAbs).toArray
  let first := (List.range (max size key.size)).foldl
    (fun (m : Mixing) k =>
      let j := k % key.size
      m.step 1664525 fun w => w + key.getD j 0 + UInt32.ofNat j)
    ⟨1, ofWord 19650218⟩
  let second := (List.range (size - 1)).foldl
    (fun (m : Mixing) _ => m.step 1566083941 fun w => w - UInt32.ofNat m.place) first
  ⟨second.words.setIfInBounds 0 0x80000000, size⟩

/-! ### Words -/

/-- The state word that replaces the one at a place. -/
def renewed (words : Array UInt32) (place : Nat) : UInt32 :=
  let next := words.getD ((place + 1) % size) 0
  let y := (words.getD place 0 &&& 0x80000000) ||| (next &&& 0x7FFFFFFF)
  let far := words.getD ((place + 397) % size) 0
  far ^^^ (y >>> 1) ^^^ (if y &&& 1 = 0 then 0 else 0x9908B0DF)

/-- The state words after all of them have been used. Each is replaced in turn, so that the later
ones depend on the new values of the earlier ones. -/
def renew (words : Array UInt32) : Array UInt32 :=
  (List.range size).foldl (fun ws place => ws.setIfInBounds place (renewed ws place)) words

/-- The output for a state word. -/
def temper (w : UInt32) : UInt32 :=
  let a := w ^^^ (w >>> 11)
  let b := a ^^^ ((a <<< 7) &&& 0x9D2C5680)
  let c := b ^^^ ((b <<< 15) &&& 0xEFC60000)
  c ^^^ (c >>> 18)

/-- The next word. -/
def word (g : MersenneTwister) : UInt32 × MersenneTwister :=
  let g := if g.used < size then g else ⟨renew g.words, 0⟩
  (temper (g.words.getD g.used 0), { g with used := g.used + 1 })

/-! ### Numbers -/

/-- A number of `k` bits: whole words, least significant first, and the leading bits of a last
word. -/
def bits (k : Nat) (g : MersenneTwister) : Nat × MersenneTwister :=
  let low := g.word
  if k ≤ 32 then (low.1.toNat / power 2 (32 - k) % power 2 k, low.2)
  else
    let high := bits (k - 32) low.2
    (low.1.toNat + wordCount * high.1, high.2)
termination_by k

/-- Draws numbers of `k` bits until one is below the bound. After `fuel` draws, which does not
happen, the last one is reduced. -/
def draw (n k : Nat) : Nat → MersenneTwister → Nat × MersenneTwister
  | 0, g =>
    let drawn := g.bits k
    (drawn.1 % n, drawn.2)
  | fuel + 1, g =>
    let drawn := g.bits k
    if drawn.1 < n then drawn else draw n k fuel drawn.2

/-- A number below a bound. -/
def below (n : Nat) (g : MersenneTwister) : Nat × MersenneTwister := draw n (n.log2 + 1) 4096 g

/-- The source of random numbers that the generator makes. -/
def source : RandomSource MersenneTwister := ⟨below, bits⟩

theorem bits_lt (k : Nat) (g : MersenneTwister) : (bits k g).1 < power 2 k := by
  induction k using Nat.strongRecOn generalizing g with
  | ind k ih =>
    rw [bits]
    simp only [power, wordCount] at ih ⊢
    split
    · exact Nat.mod_lt _ (Nat.two_pow_pos k)
    · next hk =>
      have hw : g.word.1.toNat < 2 ^ 32 := UInt32.toNat_lt _
      have hh := ih (k - 32) (by omega) g.word.2
      have hsplit : 2 ^ k = 2 ^ 32 * 2 ^ (k - 32) := by
        rw [← Nat.pow_add]
        congr 1
        omega
      simp only [hsplit]
      omega

theorem draw_lt {n : Nat} (hn : 0 < n) (k fuel : Nat) (g : MersenneTwister) :
    (draw n k fuel g).1 < n := by
  induction fuel generalizing g with
  | zero => exact Nat.mod_lt _ hn
  | succ fuel ih =>
    simp only [draw]
    split
    · assumption
    · exact ih _

/-- The numbers are in the range that was asked for. -/
theorem source_sound : source.Sound where
  below_lt _ g hn := draw_lt hn _ _ g
  bits_lt := bits_lt

end MersenneTwister

end SwitchTrace
