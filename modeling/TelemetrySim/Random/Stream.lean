import TelemetrySim.Random.Cipher
import TelemetrySim.Random.Rng

/-!
A stream of random words, and numbers drawn from it uniformly. To draw from a range the product of a
word and the size of the range is split at 64 bits: the upper half is the number, and the word is
refused if the lower half lies above the last whole multiple of the range. Draws stay in range: the
upper half of such a product lies below the range (`below_lt`), whichever word is accepted, and the
lowest number of the range is added to it without overflow (`between_mem`).
-/

set_option autoImplicit false
set_option relaxedAutoImplicit false

namespace TelemetrySim.Random

/-- A stream of 64-bit words that has been read up to a position. -/
structure Stream where
  key : Key
  position : Nat := 0

namespace Stream

def ofSeed (seed : UInt64) : Stream := { key := Key.ofSeed seed }

/-- The word at a position; its lower half comes first. -/
def wordAt (key : Key) (position : Nat) : UInt64 :=
  let block := Block.ofKey key (UInt64.ofNat (position / 8))
  let i := 2 * (position % 8)
  have h : i + 1 < 16 := by omega
  block[i].toUInt64 ||| (block[i + 1].toUInt64 <<< 32)

def next (s : Stream) : UInt64 × Stream :=
  (wordAt s.key s.position, { s with position := s.position + 1 })

/-- The greatest lower half that is accepted: the range, shifted up as far as it goes, less one. -/
def zone (range : UInt64) : UInt64 := (range <<< (63 - range.log2)) - 1

/-- A number below `range`. Fewer than half of all words are refused; the last of so many words is
accepted in any case. -/
def below (range : UInt64) : Nat → Stream → UInt64 × Stream
  | 0, s =>
    let (word, s) := s.next
    (UInt64.ofNat (word.toNat * range.toNat / UInt64.size), s)
  | attempts + 1, s =>
    let (word, s') := s.next
    let product := word.toNat * range.toNat
    if product % UInt64.size ≤ (zone range).toNat then (UInt64.ofNat (product / UInt64.size), s')
    else below range attempts s'

/-- The words that a draw may refuse. -/
def attempts : Nat := UInt32.size

/-- A number from `min` to `max`. -/
def between (min max : Int64) (s : Stream) : Int64 × Stream :=
  let range := (max - min + 1).toUInt64
  if range = 0 then
    let (word, s) := s.next
    (word.toInt64, s)
  else
    let (n, s) := s.below range attempts
    (min + n.toInt64, s)

/-! ### Draws stay in range -/

/-- The upper half of a product of words. -/
theorem toNat_upper (word range : UInt64) :
    (UInt64.ofNat (word.toNat * range.toNat / UInt64.size)).toNat =
      word.toNat * range.toNat / UInt64.size := by
  have hproduct : word.toNat * range.toNat < UInt64.size * UInt64.size :=
    Nat.mul_lt_mul'' word.toNat_lt range.toNat_lt
  exact UInt64.toNat_ofNat_of_lt (Nat.div_lt_of_lt_mul hproduct)

theorem upper_lt (word : UInt64) {range : UInt64} (hrange : range ≠ 0) :
    (UInt64.ofNat (word.toNat * range.toNat / UInt64.size)).toNat < range.toNat := by
  have hpos : 0 < range.toNat := by
    rw [Nat.pos_iff_ne_zero]
    exact fun h ↦ hrange (UInt64.toNat_inj.mp h)
  rw [toNat_upper, Nat.div_lt_iff_lt_mul (by decide), Nat.mul_comm range.toNat]
  exact Nat.mul_lt_mul_of_pos_right word.toNat_lt hpos

/-- Whichever word is accepted, the number is below the range. -/
theorem below_lt {range : UInt64} (hrange : range ≠ 0) (n : Nat) (s : Stream) :
    (s.below range n).1.toNat < range.toNat := by
  induction n generalizing s with
  | zero => exact upper_lt _ hrange
  | succ n ih =>
    have hstep : s.below range (n + 1) =
        if s.next.1.toNat * range.toNat % UInt64.size ≤ (zone range).toNat then
          (UInt64.ofNat (s.next.1.toNat * range.toNat / UInt64.size), s.next.2)
        else s.next.2.below range n := rfl
    rw [hstep]
    split
    · exact upper_lt _ hrange
    · exact ih _

/-- The size of a range, up to a full turn. -/
theorem toNat_range (min max : Int64) :
    ((max - min + 1).toUInt64.toNat : Int) % UInt64.size =
      (max.toInt - min.toInt + 1) % UInt64.size := by
  have hturn : ((max - min + 1).toUInt64.toNat : Int).bmod (2 ^ 64) = (max - min + 1).toInt :=
    (BitVec.toInt_eq_toNat_bmod (max - min + 1).toBitVec).symm
  rw [Int64.toInt_add, Int64.toInt_sub, Int.bmod_add_bmod] at hturn
  have hmod := congrArg (· % ((2 ^ 64 : Nat) : Int)) hturn
  simp only [Int.bmod_emod] at hmod
  exact hmod

/-- A draw from a range that is not empty lies in it. -/
theorem between_mem {min max : Int64} (h : min ≤ max) (s : Stream) :
    min ≤ (s.between min max).1 ∧ (s.between min max).1 ≤ max := by
  have hle : min.toInt ≤ max.toInt := Int64.le_iff_toInt_le.mp h
  have hwidth : UInt64.size = 18446744073709551616 := rfl
  have hsize := toNat_range min max
  rw [hwidth] at hsize
  have hlower := min.le_toInt
  have hupper := max.toInt_lt
  rw [Int64.le_iff_toInt_le, Int64.le_iff_toInt_le]
  by_cases hrange : (max - min + 1).toUInt64 = 0
  · -- The range is a full turn, so it holds all numbers.
    have hall : (s.between min max).1 = s.next.1.toInt64 := by
      rw [between, if_pos hrange]
    rw [hrange] at hsize
    have hword := s.next.1.toInt64.le_toInt
    have hword' := s.next.1.toInt64.toInt_lt
    rw [hall]
    simp only [UInt64.toNat_zero] at hsize
    omega
  · have hbelow := below_lt hrange attempts s
    have hsum : (s.between min max).1 =
        min + (s.below (max - min + 1).toUInt64 attempts).1.toInt64 := by
      rw [between, if_neg hrange]
    have hlt := (max - min + 1).toUInt64.toNat_lt
    generalize (s.below (max - min + 1).toUInt64 attempts).1 = n at hbelow hsum
    have hn : n.toInt64 = Int64.ofNat n.toNat := by
      rw [← UInt64.toInt64_ofNat', UInt64.ofNat_toNat]
    have hexact : (min + n.toInt64).toInt = min.toInt + n.toNat := by
      have hturn : Int64.size = 2 ^ 64 := rfl
      rw [hn, Int64.toInt_add, Int64.toInt_ofNat', hturn, Int.add_bmod_bmod]
      exact Int.bmod_eq_of_le (by omega) (by omega)
    rw [hsum, hexact]
    omega

instance : Rng Stream where
  ofSeed := ofSeed
  between := between
  between_mem := between_mem

end Stream

end TelemetrySim.Random
