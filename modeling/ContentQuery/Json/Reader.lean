import ContentQuery.Decimal.Digits
import ContentQuery.Decimal.Reading
import ContentQuery.Json.Basic
import ContentQuery.Text.Spaces
import ContentQuery.Text.Taking

namespace ContentQuery.Json
open Text Decimal

-- The digits of a number kept within 64 bits. An integer digit that no longer
-- fits, and every integer digit after it, only raises the exponent; the first
-- fraction digit that no longer fits ends the fraction.
structure Significand where
  value : Nat
  exponent : Int

def Significand.fits (s : Significand) (c : Char) : Bool :=
  10 * s.value + digitValue c ≤ 18446744073709551615

def wholeDigits (s : Significand) : List Char → Significand
  | [] => s
  | c :: rest =>
    if s.fits c then wholeDigits ⟨10 * s.value + digitValue c, s.exponent⟩ rest
    else ⟨s.value, s.exponent + (rest.length + 1 : Nat)⟩

def fractionDigits (s : Significand) : List Char → Significand
  | [] => s
  | c :: rest =>
    if s.fits c then fractionDigits ⟨10 * s.value + digitValue c, s.exponent - 1⟩ rest else s

def wholeNumber (negative : Bool) (s : Significand) : Option Number :=
  if s.exponent = 0 ∧ ¬ negative then some (.int s.value)
  else if s.exponent = 0 ∧ 0 < s.value ∧ s.value ≤ 9223372036854775808 then some (.int (-s.value))
  else (Double.ofScaled negative s.value s.exponent).map .real

def takeFraction : List Char → Option (List Char × List Char)
  | '.' :: rest =>
    let digits := rest.takeWhile Char.isDigit
    if digits.isEmpty then none else some (digits, rest.dropWhile Char.isDigit)
  | text => some ([], text)

def takeExponent (text : List Char) : Option (Option Int × List Char) :=
  match text with
  | c :: rest =>
    if c = 'e' || c = 'E' then
      let (negative, rest) := match rest with
        | '-' :: after => (true, after)
        | '+' :: after => (false, after)
        | _ => (false, rest)
      let digits := rest.takeWhile Char.isDigit
      if digits.isEmpty then none
      else
        let value : Int := digitsValue digits
        some (some (if negative then -value else value), rest.dropWhile Char.isDigit)
    else some (none, text)
  | [] => some (none, text)

-- A number without fraction and exponent is an integer as long as 64 bits hold
-- it. The negative zero is a double.
def readNumber (text : List Char) : Option (Number × List Char) := do
  let (negative, text) := match text with
    | '-' :: rest => (true, rest)
    | _ => (false, text)
  let digits := text.takeWhile Char.isDigit
  if digits.isEmpty || (digits.head? == some '0' && digits.length != 1) then none
  let whole := wholeDigits ⟨0, 0⟩ digits
  let (fraction, rest) ← takeFraction (text.dropWhile Char.isDigit)
  let (exponent, rest) ← takeExponent rest
  if fraction.isEmpty && exponent.isNone then
    return (← wholeNumber negative whole, rest)
  let s := fractionDigits whole fraction
  return (.real (← Double.ofScaled negative s.value (s.exponent + exponent.getD 0)), rest)

def hexValue (c : Char) : Option Nat :=
  if c.isDigit then some (digitValue c)
  else if 'a' ≤ c ∧ c ≤ 'f' then some (c.toNat - 'a'.toNat + 10)
  else if 'A' ≤ c ∧ c ≤ 'F' then some (c.toNat - 'A'.toNat + 10)
  else none

def hexUnit (a b c d : Char) : Option Nat := do
  return (((← hexValue a) * 16 + (← hexValue b)) * 16 + (← hexValue c)) * 16 + (← hexValue d)

def isHighSurrogate (unit : Nat) : Bool := 0xd800 ≤ unit && unit ≤ 0xdbff
def isLowSurrogate (unit : Nat) : Bool := 0xdc00 ≤ unit && unit ≤ 0xdfff

def escaped : Char → Option Char
  | '"' => some '"'
  | '\\' => some '\\'
  | '/' => some '/'
  | 'b' => some '\x08'
  | 'f' => some '\x0c'
  | 'n' => some '\n'
  | 'r' => some '\r'
  | 't' => some '\t'
  | _ => none

def readString : List Char → Option (List Char × List Char)
  | [] => none
  | '"' :: rest => some ([], rest)
  | '\\' :: 'u' :: a :: b :: c :: d :: '\\' :: 'u' :: e :: f :: g :: h :: rest => do
    let unit ← hexUnit a b c d
    if isHighSurrogate unit then
      let low ← hexUnit e f g h
      if isLowSurrogate low then
        let (text, rest) ← readString rest
        return (Char.ofNat (0x10000 + (unit - 0xd800) * 0x400 + (low - 0xdc00)) :: text, rest)
      else none
    else if isLowSurrogate unit then none
    else
      let (text, rest) ← readString ('\\' :: 'u' :: e :: f :: g :: h :: rest)
      return (Char.ofNat unit :: text, rest)
  | '\\' :: 'u' :: a :: b :: c :: d :: rest => do
    let unit ← hexUnit a b c d
    if isHighSurrogate unit || isLowSurrogate unit then none
    else
      let (text, rest) ← readString rest
      return (Char.ofNat unit :: text, rest)
  | '\\' :: c :: rest => do
    let c ← escaped c
    let (text, rest) ← readString rest
    return (c :: text, rest)
  | c :: rest => do
    if c.toNat < 0x20 then none
    let (text, rest) ← readString rest
    return (c :: text, rest)

def takeKey : Taker String := fun text =>
  shorter text <| match text with
    | '"' :: rest => do
      let (name, rest) ← readString rest
      match skipSpace rest with
      | ':' :: rest => some (String.ofList name, skipSpace rest)
      | _ => none
    | _ => none

def takeField (value : Taker Json) : Taker (String × Json) := fun text => do
  let ⟨(name, rest), less⟩ ← takeKey text
  let ⟨(value, rest), more⟩ ← value rest
  return ⟨((name, value), rest), Nat.lt_trans more less⟩

def takeScalar : Taker Json := fun text =>
  shorter text <| match text with
    | 'n' :: 'u' :: 'l' :: 'l' :: rest => some (.null, rest)
    | 't' :: 'r' :: 'u' :: 'e' :: rest => some (.bool true, rest)
    | 'f' :: 'a' :: 'l' :: 's' :: 'e' :: rest => some (.bool false, rest)
    | '"' :: rest => (readString rest).map fun (text, rest) => (.str (String.ofList text), rest)
    | _ => (readNumber text).map fun (number, rest) => (.num number, rest)

-- `depth` counts the brackets that may still be opened. A repeated field name
-- keeps its first position and its last value.
def takeValue : (depth : Nat) → Taker Json
  | depth, text => match depth, text with
    | depth + 1, '[' :: rest =>
      shorter ('[' :: rest) <| match skipSpace rest with
        | ']' :: after => some (.arr [], after)
        | inside => (takeSeparated skipSpace skipSpace_le false ']' (takeValue depth) inside).map
            fun taken => (.arr taken.1.1, taken.1.2)
    | depth + 1, '\x7b' :: rest =>
      shorter ('\x7b' :: rest) <| match skipSpace rest with
        | '\x7d' :: after => some (.obj [], after)
        | inside => (takeSeparated skipSpace skipSpace_le false '\x7d' (takeField (takeValue depth))
            inside).map fun taken => (.obj (OrderedMap.ofList taken.1.1).entries, taken.1.2)
    | _, text => takeScalar text

def greatestDepth : Nat := 127

def ofText? (text : String) : Option Json := do
  let ⟨(value, rest), _⟩ ← takeValue greatestDepth (skipSpace text.toList)
  if (skipSpace rest).isEmpty then some value else none

end ContentQuery.Json
