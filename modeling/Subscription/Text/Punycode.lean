/-!
# Letters in ASCII

A text of any characters can be written with those of ASCII alone, as names of hosts are. First come
its ASCII characters. Behind a hyphen follow the others, in the order of their code points and then
of their places, each by the number of steps from the one before it: a step goes to the next place
in the text so far, and from its end to the next code point.

A number is written from its lowest digit on. Each digit has a threshold, and the first one below
its threshold is the last. How the thresholds rise is adapted to the size of the numbers before.
-/

namespace Subscription

namespace Punycode

/-! ### Digits and thresholds -/

/-- The value of a digit: the small letters come before the decimal digits. -/
def digit? (c : Char) : Option Nat :=
  if 'a' ≤ c && c ≤ 'z' then some (c.toNat - 'a'.toNat)
  else if c.isDigit then some (c.toNat - '0'.toNat + 26)
  else none

/-- The digit with a value. -/
def digitChar (value : Nat) : Char :=
  if value < 26 then Char.ofNat ('a'.toNat + value) else Char.ofNat ('0'.toNat + (value - 26))

/-- The threshold of the digit at a position, which is counted in steps of 36. -/
def threshold (bias position : Nat) : Nat :=
  if position ≤ bias then 1 else if bias + 26 ≤ position then 26 else position - bias

theorem threshold_pos (bias position : Nat) : 1 ≤ threshold bias position := by
  unfold threshold
  split
  · omega
  · split <;> omega

/-- The bias for numbers around a given one. -/
def biasFor (number position : Nat) : Nat :=
  if 455 < number then biasFor (number / 35) (position + 36)
  else position + 36 * number / (number + 38)
termination_by number
decreasing_by exact Nat.div_lt_self (by omega) (by omega)

/-- The bias behind a number, in a text of so many characters. The first number is much larger than
those that follow. -/
def adapted (number count : Nat) (isFirst : Bool) : Nat :=
  let number := if isFirst then number / 700 else number / 2
  biasFor (number + number / count) 0

/-! ### Numbers -/

/-- The digits of a number. -/
def digits (bias position number : Nat) : List Char :=
  let threshold := threshold bias position
  if number < threshold then [digitChar number]
  else
    digitChar (threshold + (number - threshold) % (36 - threshold))
      :: digits bias (position + 36) ((number - threshold) / (36 - threshold))
termination_by number
decreasing_by
  have := threshold_pos bias position
  exact Nat.lt_of_le_of_lt (Nat.div_le_self _ _) (by omega)

/-- Whether a number is small enough to be counted with. -/
def fits (number : Nat) : Bool := number < 0x100000000

/-- A number that is added to another one, and the characters behind it. -/
def number? (bias position weight sum : Nat) : List Char → Option (Nat × List Char)
  | [] => none
  | c :: rest => do
    let digit ← digit? c
    let sum := sum + digit * weight
    guard (fits (digit * weight) && fits sum)
    if digit < threshold bias position then return (sum, rest)
    let weight := weight * (36 - threshold bias position)
    guard (fits weight)
    number? bias (position + 36) weight sum rest

/-! ### Writing -/

/-- How far the text is written. -/
structure Progress where
  /-- The code point that was written last. -/
  code : Nat := 0x80
  /-- The place that the next character can have, in the text so far. -/
  place : Nat := 0
  /-- The number of characters written so far. -/
  count : Nat
  bias : Nat := 72
  isFirst : Bool := true
  written : List Char := []

/-- Writes a character that belongs behind so many of those written so far. -/
def write (progress : Progress) (code place : Nat) : Progress :=
  let steps := (code - progress.code) * (progress.count + 1) + place - progress.place
  { code
    place := place + 1
    count := progress.count + 1
    bias := adapted steps (progress.count + 1) progress.isFirst
    isFirst := false
    written := progress.written ++ digits progress.bias 36 steps }

/-- The characters of a text that are not ASCII, in the order of their code points and places. Each
comes with the number of characters in front of it that are written before it. -/
def additions (chars : List Char) : List (Nat × Nat) :=
  let places := chars.zipIdx.filter fun (c, _) => 0x80 ≤ c.toNat
  let ascending := places.mergeSort fun (a, i) (b, j) => a < b || (a = b && i ≤ j)
  ascending.map fun (c, i) => (c.toNat, ((chars.take i).filter (· ≤ c)).length)

/-- A text in ASCII. -/
def encode (chars : List Char) : List Char :=
  let plain := chars.filter fun c => c.toNat < 0x80
  let progress := (additions chars).foldl (fun progress (code, place) => write progress code place)
    { count := plain.length }
  (if plain.isEmpty then [] else plain ++ ['-']) ++ progress.written

/-! ### Reading -/

/-- Puts the characters that are written by their steps into a text. The fuel bounds their
number. -/
def fill (bias code place : Nat) (isFirst : Bool) (text : List Char) :
    Nat → List Char → Option (List Char)
  | _, [] => some text
  | 0, _ => none
  | fuel + 1, chars => do
    let (sum, rest) ← number? bias 36 1 place chars
    let count := text.length + 1
    let code := code + sum / count
    guard code.isValidChar
    let bias := adapted (sum - place) count isFirst
    let place := sum % count
    let text := text.take place ++ Char.ofNat code :: text.drop place
    fill bias code (place + 1) false text fuel rest

/-- The text that is written in ASCII, if the characters are such a text. The last hyphen ends the
ASCII characters of the text, unless there are none. -/
def decode? (chars : List Char) : Option (List Char) :=
  let plain := ((chars.reverse.dropWhile (· ≠ '-')).drop 1).reverse
  let steps := if plain.isEmpty then chars else chars.drop (plain.length + 1)
  fill 72 0x80 0 true plain steps.length steps

end Punycode

end Subscription
