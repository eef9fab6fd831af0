/-!
Random words from a stream cipher of twelve rounds (ChaCha12). A block of sixteen words is a
function of the key and of the number of the block.
-/

set_option autoImplicit false
set_option relaxedAutoImplicit false

namespace TelemetrySim.Random

abbrev Key := Vector UInt32 8

abbrev Block := Vector UInt32 16

def rotateLeft (x n : UInt32) : UInt32 := (x <<< n) ||| (x >>> (32 - n))

namespace Block

/-- Adds word `b` to word `a`, and mixes the sum into word `d`, which is turned. -/
def stir (a b d : Fin 16) (turn : UInt32) (s : Block) : Block :=
  let x := s[a] + s[b]
  let y := rotateLeft (s[d] ^^^ x) turn
  (s.set a x).set d y

def quarterRound (a b c d : Fin 16) (s : Block) : Block :=
  s |> stir a b d 16 |> stir c d b 12 |> stir a b d 8 |> stir c d b 7

/-- A round on the columns and a round on the diagonals. -/
def doubleRound (s : Block) : Block :=
  s |> quarterRound 0 4 8 12 |> quarterRound 1 5 9 13 |> quarterRound 2 6 10 14
    |> quarterRound 3 7 11 15 |> quarterRound 0 5 10 15 |> quarterRound 1 6 11 12
    |> quarterRound 2 7 8 13 |> quarterRound 3 4 9 14

/-- The block before the rounds: four constants, the key, the number of the block, and zeros. -/
def start (key : Key) (number : UInt64) : Block :=
  (#v[0x61707865, 0x3320646e, 0x79622d32, 0x6b206574] : Vector UInt32 4) ++ key ++
    (#v[number.toUInt32, (number >>> 32).toUInt32, 0, 0] : Vector UInt32 4)

/-- A block of random words. -/
def ofKey (key : Key) (number : UInt64) : Block :=
  let s := start key number
  Vector.zipWith (· + ·) s (Nat.repeat doubleRound 6 s)

end Block

/-- The state behind the words of a key. -/
def advanceKeyState (z : UInt64) : UInt64 := z * 6364136223846793005 + 11634580027462260723

/-- A word of a key: the upper bits of its state, folded, and turned by the uppermost ones. -/
def keyWord (z : UInt64) : UInt32 :=
  let folded : UInt64 := ((z >>> 18) ^^^ z) >>> 27
  let turn := (32 : UInt64) - (z >>> 59)
  rotateLeft folded.toUInt32 turn.toUInt32

/-- The key of a seed. -/
def Key.ofSeed (seed : UInt64) : Key :=
  Vector.ofFn fun i ↦ keyWord ((i.val + 1).repeat advanceKeyState seed)

end TelemetrySim.Random
