namespace ContentQuery

def Double.leastFull : Nat := 4503599627370496
def Double.mantissaEnd : Nat := 2 * Double.leastFull

-- The bounds of a finite binary64 number. They leave one pair for each
-- magnitude, so equal numbers are equal values.
def Double.Canonical (mantissa : Nat) (exponent : Int) : Prop :=
  mantissa < Double.mantissaEnd ∧ -1074 ≤ exponent ∧ exponent ≤ 971 ∧
    (Double.leastFull ≤ mantissa ∨ exponent = -1074)

instance (mantissa : Nat) (exponent : Int) : Decidable (Double.Canonical mantissa exponent) :=
  inferInstanceAs (Decidable (_ ∧ _))

-- The number is mantissa · 2 ^ exponent under its sign; zero has both signs.
structure Double where
  negative : Bool
  mantissa : Nat
  exponent : Int
  canonical : Double.Canonical mantissa exponent
  deriving Repr, DecidableEq

namespace Double

def zero (negative : Bool) : Double := ⟨negative, 0, -1074, by decide⟩

instance : Inhabited Double := ⟨zero false⟩

def roundDiv (num den : Nat) : Nat :=
  let quotient := num / den
  let rest := 2 * (num % den)
  if rest < den then quotient
  else if den < rest then quotient + 1
  else quotient + quotient % 2

def inUnits (num den : Nat) (exponent : Int) : Nat × Nat :=
  (num * Nat.pow 2 (-exponent).toNat, den * Nat.pow 2 exponent.toNat)

def ofParts (negative : Bool) (mantissa : Nat) (exponent : Int) : Option Double :=
  if canonical : Canonical mantissa exponent then some ⟨negative, mantissa, exponent, canonical⟩
  else none

-- The double nearest to num / den, `none` beyond the finite range. The unit is
-- the one that leaves 53 bits of quotient, or the least unit there is.
def ofRatio (negative : Bool) (num den : Nat) : Option Double :=
  if num = 0 then some (zero negative) else
  let guess : Int := (num.log2 : Int) - den.log2 - 53
  let first := inUnits num den guess
  let exponent := max (-1074) (if first.1 / first.2 < mantissaEnd then guess else guess + 1)
  let scaled := inUnits num den exponent
  let mantissa := roundDiv scaled.1 scaled.2
  if mantissa = mantissaEnd then ofParts negative leastFull (exponent + 1)
  else ofParts negative mantissa exponent

def ratio (d : Double) : Nat × Nat :=
  (d.mantissa * Nat.pow 2 d.exponent.toNat, Nat.pow 2 (-d.exponent).toNat)

def isZero (d : Double) : Bool := d.mantissa == 0

def mul (a b : Double) : Option Double :=
  ofRatio (a.negative != b.negative) (a.ratio.1 * b.ratio.1) (a.ratio.2 * b.ratio.2)

def div (a b : Double) : Option Double :=
  ofRatio (a.negative != b.negative) (a.ratio.1 * b.ratio.2) (a.ratio.2 * b.ratio.1)

def truncate (d : Double) : Int :=
  let whole : Int := (d.ratio.1 / d.ratio.2 : Nat)
  if d.negative then -whole else whole

end Double
end ContentQuery
