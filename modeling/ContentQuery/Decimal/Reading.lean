import ContentQuery.Decimal.Double

namespace ContentQuery.Double

def powerOfTen (exponent : Nat) : Option Double := ofRatio false (Nat.pow 10 exponent) 1

-- The double nearest to digits · 10 ^ exponent. Beyond the two outer bounds the
-- answer does not depend on the exponent, so no large power is formed there.
def ofDecimal (negative : Bool) (digits : Nat) (exponent : Int) : Option Double :=
  if digits = 0 then some (zero negative)
  else if 400 < exponent then none
  else if exponent < -(400 + (digits.log2 : Int)) then some (zero negative)
  else ofRatio negative (digits * Nat.pow 10 exponent.toNat) (Nat.pow 10 (-exponent).toNat)

-- The second way to read a decimal: the digits are rounded to a double, which
-- is then scaled by powers of ten that are doubles themselves. Scaling down
-- takes steps of 10 ^ 308 until the rest fits.
def scaleDown (value : Double) (places : Nat) : Option Double :=
  if value.isZero then some value
  else if large : 308 < places then do
    scaleDown (← value.div (← powerOfTen 308)) (places - 308)
  else do value.div (← powerOfTen places)
termination_by places
decreasing_by omega

def ofScaled (negative : Bool) (digits : Nat) (exponent : Int) : Option Double := do
  let value ← ofRatio negative digits 1
  if exponent < 0 then value.scaleDown (-exponent).toNat
  else if value.isZero then some value
  else if 308 < exponent then none
  else value.mul (← powerOfTen exponent.toNat)

end ContentQuery.Double
