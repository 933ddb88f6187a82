/-!
# Shortest decimals

A binary floating-point number `m · 2 ^ q` stands for all reals that round to it.  They form an
interval around the number, and `shortest` is the decimal in that interval with the fewest digits.

The search goes through the decimal grids from coarse to fine.  On the grid of the multiples of
`10 ^ e` only the two neighbours of the number can be the answer: if any multiple lies in the
interval, so does one of them.  The first grid with a hit wins; of two hits the nearer one is taken,
and of two equally near ones the larger.  The scan ends at the latest on the grid of `10 ^ q`, or of
the whole numbers, which holds the number itself.

All comparisons are between natural numbers.  They count in quarters of `2 ^ q`, so that the ends of
the interval are whole: two quarters above and below, but only one quarter below a power of two,
where the numbers beneath are twice as dense.
-/

namespace SourcePress

/-- The number `digits · 10 ^ exponent`. -/
structure Decimal where
  digits : Nat
  exponent : Int
deriving DecidableEq, Repr

namespace Decimal

/-- The binary number `mantissa · 2 ^ exponent` with its interval of reals that round to it. -/
structure Cell where
  mantissa : Nat
  exponent : Int
  /-- Are the numbers beneath twice as dense as those above? -/
  denseBelow : Bool
deriving DecidableEq, Repr

namespace Cell

/-- The factor on the numerator that turns quarters of `2 ^ q` into units of `10 ^ e`. -/
def scaleUp (c : Cell) (e : Int) : Nat := Nat.pow 2 (c.exponent - 2).toNat * Nat.pow 10 (-e).toNat

/-- The factor on the denominator that turns quarters of `2 ^ q` into units of `10 ^ e`. -/
def scaleDown (c : Cell) (e : Int) : Nat := Nat.pow 2 (2 - c.exponent).toNat * Nat.pow 10 e.toNat

/-- The number in quarters. -/
def middle (c : Cell) : Nat := 4 * c.mantissa

/-- The lower end of the interval in quarters. -/
def lower (c : Cell) : Nat := c.middle - if c.denseBelow then 1 else 2

/-- The upper end of the interval in quarters. -/
def upper (c : Cell) : Nat := c.middle + 2

/-- Does `x · 10 ^ e` round to the number?  The ends of the interval do exactly when the mantissa is
even. -/
def holds (c : Cell) (e : Int) (x : Nat) : Bool :=
  let point := x * c.scaleDown e
  let low := c.lower * c.scaleUp e
  let high := c.upper * c.scaleUp e
  if c.mantissa % 2 = 0 then low ≤ point && point ≤ high else low < point && point < high

/-- The neighbour of the number on the grid of `10 ^ e` that rounds to it, if there is one: the
nearer of two, and the larger of two equally near ones. -/
def nearest? (c : Cell) (e : Int) : Option Nat :=
  let number := c.middle * c.scaleUp e
  let unit := c.scaleDown e
  let below := number / unit
  match c.holds e below, c.holds e (below + 1) with
  | false, false => none
  | true, false => some below
  | false, true => some (below + 1)
  | true, true => some (if unit ≤ 2 * (number - below * unit) then below + 1 else below)

/-- A grid so coarse that the number lies below its first positive point. -/
def coarsest (c : Cell) : Nat := (c.mantissa.log2 + 1 + c.exponent).toNat

/-- The number written out in full. -/
def exact (c : Cell) : Decimal :=
  if 0 ≤ c.exponent then ⟨c.mantissa * Nat.pow 2 c.exponent.toNat, 0⟩
  else ⟨c.mantissa * Nat.pow 5 (-c.exponent).toNat, c.exponent⟩

/-- The decimal with the fewest digits that rounds to the number. -/
def shortest (c : Cell) : Decimal :=
  let grids := c.coarsest + (-c.exponent).toNat + 1
  let found := (List.range grids).findSome? fun (i : Nat) =>
    let e : Int := c.coarsest - i
    (c.nearest? e).map fun digits => (⟨digits, e⟩ : Decimal)
  found.getD c.exact

end Cell

/-- The decimal in positional notation, without an exponent and without a point after a whole
number. -/
def positional (d : Decimal) : String :=
  let digits := Nat.toDigits 10 d.digits
  let places := (-d.exponent).toNat
  if places = 0 then String.ofList (digits ++ List.replicate d.exponent.toNat '0')
  else if places < digits.length then
    let whole := digits.length - places
    String.ofList (digits.take whole ++ '.' :: digits.drop whole)
  else String.ofList ('0' :: '.' :: (List.replicate (places - digits.length) '0' ++ digits))

end Decimal

end SourcePress
