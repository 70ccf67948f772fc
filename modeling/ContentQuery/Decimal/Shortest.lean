import ContentQuery.Decimal.Digits
import ContentQuery.Decimal.Double

namespace ContentQuery

namespace Double

-- A positive double and the interval of reals that round to it, all in units of
-- a quarter of the last place. Below a power of two the next double is nearer.
-- The ends belong to the interval when the mantissa is even.
def centre (d : Double) : Nat := 4 * d.mantissa

def lowEnd (d : Double) : Nat :=
  if d.mantissa = leastFull ∧ d.exponent ≠ -1074 then d.centre - 1 else d.centre - 2

def highEnd (d : Double) : Nat := d.centre + 2

def gridStep (d : Double) (exponent : Int) : Nat × Nat :=
  (Nat.pow 10 exponent.toNat * Nat.pow 2 (2 - d.exponent).toNat,
    Nat.pow 10 (-exponent).toNat * Nat.pow 2 (d.exponent - 2).toNat)

def within (d : Double) (step : Nat × Nat) (multiple : Nat) : Bool :=
  let low := d.lowEnd * step.2
  let high := d.highEnd * step.2
  let point := multiple * step.1
  if d.mantissa % 2 = 0 then low ≤ point && point ≤ high else low < point && point < high

-- The grid point that reads back as the double, the nearer of two; a tie goes
-- to the even one. If any point of the grid reads back, a neighbour does.
def gridPoint (d : Double) (exponent : Int) : Option Decimal :=
  let step := d.gridStep exponent
  let below := d.centre * step.2 / step.1
  let above := below + 1
  match d.within step below, d.within step above with
  | false, false => none
  | true, false => some ⟨below, exponent⟩
  | false, true => some ⟨above, exponent⟩
  | true, true =>
    let fall := d.centre * step.2 - below * step.1
    let rise := above * step.1 - d.centre * step.2
    let down := fall < rise || (fall == rise && below % 2 == 0)
    some ⟨if down then below else above, exponent⟩

-- Grids are tried from coarse to fine, so the first hit has the fewest digits.
-- The start lies above the leading digit, and seventeen digits always suffice.
def shortest (d : Double) : Decimal :=
  if d.isZero then ⟨0, 0⟩ else
  let top : Int := ((d.mantissa.log2 : Int) + d.exponent) * 30103 / 100000 + 2
  ((List.range 24).findSome? fun (depth : Nat) => d.gridPoint (top - depth)).getD ⟨0, 0⟩

end Double
end ContentQuery
