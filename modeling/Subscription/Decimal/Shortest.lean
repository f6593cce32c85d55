import Subscription.Decimal.Binary64

/-!
# The shortest decimal that reads back

A double stands for every real number that rounds to it. `Shortest.decimal` gives the decimal with
the fewest digits among those, and of several the nearest to the double itself; `Shortest.text`
writes it. The search tries ever finer decimal grids and looks at the two grid points that enclose
the double: if any point of a grid rounds to it, one of these two does.
-/

namespace Subscription

namespace Shortest

/-- The numbers that round to a double, all over one denominator: the double itself is
`value / denominator`, and a number rounds to it when it lies between `low / denominator` and
`high / denominator`, the ends included when `closed`. -/
structure Interval where
  low : Nat
  value : Nat
  high : Nat
  denominator : Nat
  closed : Bool

/-- The numbers that round to the magnitude of a double. Below a power of two the doubles lie
twice as close, and a tie goes to the even significand. -/
def interval (x : Binary64) : Interval :=
  let atPower := x.significand = Binary64.leastFull ∧ x.exponent ≠ -1074
  let below := if atPower then 1 else 2
  let (unit, denominator) :=
    match x.exponent with
    | .ofNat e => (1 <<< e, 4)
    | .negSucc e => (1, 4 <<< (e + 1))
  { low := (4 * x.significand - below) * unit
    value := 4 * x.significand * unit
    high := (4 * x.significand + 2) * unit
    denominator := denominator
    closed := x.significand % 2 == 0 }

/-- `digits * 10 ^ exponent`. -/
structure Decimal where
  digits : Nat
  exponent : Int
  deriving DecidableEq, Repr

/-- The grid `10 ^ exponent` over an interval's denominator: a grid point `n` is
`n * step / denominator`, and `stretch` is what the interval's numerators are multiplied by. -/
def grid (denominator : Nat) : Int → Nat × Nat
  | .ofNat e => (denominator * Nat.pow 10 e, 1)
  | .negSucc e => (denominator, Nat.pow 10 (e + 1))

/-- The point of the grid `10 ^ exponent` in the interval that is nearest to the value. -/
def onGrid? (i : Interval) (exponent : Int) : Option Decimal :=
  let (step, stretch) := grid i.denominator exponent
  let value := i.value * stretch
  let inside (n : Nat) : Bool :=
    n ≠ 0 && (if i.closed then i.low * stretch ≤ n * step && n * step ≤ i.high * stretch
      else i.low * stretch < n * step && n * step < i.high * stretch)
  let below := value / step
  let above := below + 1
  match inside below, inside above with
  | false, false => none
  | true, false => some ⟨below, exponent⟩
  | false, true => some ⟨above, exponent⟩
  | true, true =>
    let toBelow := value - below * step
    let toAbove := above * step - value
    if toBelow < toAbove || (toBelow == toAbove && below % 2 == 0) then some ⟨below, exponent⟩
    else some ⟨above, exponent⟩

/-- The first grid with a hit, from `10 ^ exponent` down to ever finer ones. -/
def search (i : Interval) : Nat → Int → Decimal
  | 0, exponent => ⟨0, exponent⟩
  | fuel + 1, exponent =>
    match onGrid? i exponent with
    | some decimal => decimal
    | none => search i fuel (exponent - 1)

/-- An exponent whose grid is too coarse for a positive double: the power of ten exceeds it. -/
def coarse (x : Binary64) : Int :=
  ((Nat.log2 x.significand : Int) + 1 + x.exponent) * 30103 / 100000 + 2

/-- The decimal with the fewest digits that rounds to the magnitude of `x`, and of those the
nearest to it. Seventeen digits always suffice, which bounds the search. -/
def decimal (x : Binary64) : Decimal := search (interval x) 24 (coarse x)

/-- A decimal written out. The point stands among the digits, or after zeros, when the leading
digit counts between `10 ^ -5` and `10 ^ 15`, and a whole number then ends in `.0`; any other is
written with a signed exponent. -/
def Decimal.text (d : Decimal) : String :=
  let digits := (Nat.toDigits 10 d.digits)
  let point : Int := digits.length + d.exponent
  if 0 ≤ d.exponent && point ≤ 16 then
    String.ofList (digits ++ List.replicate d.exponent.toNat '0') ++ ".0"
  else if 0 < point && point ≤ 16 then
    String.ofList (digits.take point.toNat ++ '.' :: digits.drop point.toNat)
  else if -5 < point && point ≤ 0 then
    "0." ++ String.ofList (List.replicate (-point).toNat '0' ++ digits)
  else
    let leading := point - 1
    let sign := if leading < 0 then "-" else "+"
    let fraction := if digits.length ≤ 1 then [] else '.' :: digits.drop 1
    String.ofList (digits.take 1 ++ fraction) ++ "e" ++ sign ++ toString leading.natAbs

/-- The shortest text of a double, with its sign. -/
def text (x : Binary64) : String :=
  let magnitude := if x.isZero then "0.0" else (decimal x).text
  if x.negative then "-" ++ magnitude else magnitude

end Shortest

end Subscription
