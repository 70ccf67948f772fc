namespace ContentQuery

-- significand · 10 ^ exponent.
structure Decimal where
  significand : Nat
  exponent : Int
  deriving Repr, DecidableEq

namespace Decimal

def digitValue (c : Char) : Nat := c.toNat - '0'.toNat

def digitsValue (digits : List Char) : Nat :=
  digits.foldl (fun value c => 10 * value + digitValue c) 0

def isDigits (text : List Char) : Bool := !text.isEmpty && text.all Char.isDigit

def takeSign : List Char → Bool × List Char
  | '-' :: rest => (true, rest)
  | '+' :: rest => (false, rest)
  | text => (false, text)

def applySign (negative : Bool) (value : Nat) : Int := if negative then -value else value

def integer? (text : List Char) : Option Int :=
  let (negative, digits) := takeSign text
  if isDigits digits then some (applySign negative (digitsValue digits)) else none

def exponent? : List Char → Option Int
  | [] => some 0
  | c :: rest => if c = 'e' ∨ c = 'E' then integer? rest else none

def literal? (text : List Char) : Option (Bool × Decimal) :=
  let (negative, text) := takeSign text
  let whole := text.takeWhile Char.isDigit
  let rest := text.dropWhile Char.isDigit
  let (fraction, rest) := match rest with
    | '.' :: after => (after.takeWhile Char.isDigit, after.dropWhile Char.isDigit)
    | _ => ([], rest)
  if whole.isEmpty && fraction.isEmpty then none
  else (exponent? rest).map fun exponent =>
    (negative, ⟨digitsValue (whole ++ fraction), exponent - fraction.length⟩)

end Decimal
end ContentQuery
