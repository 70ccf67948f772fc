import ContentQuery.Decimal.Digits
import ContentQuery.Text.Blank

namespace ContentQuery

def isLeapYear (year : Int) : Bool := year % 4 == 0 && (year % 100 != 0 || year % 400 == 0)

def daysIn (year : Int) (month : Nat) : Nat :=
  if month = 2 then (if isLeapYear year then 29 else 28)
  else if month = 4 ∨ month = 6 ∨ month = 9 ∨ month = 11 then 30
  else 31

-- The proleptic Gregorian calendar with clock times that have no zone. Any
-- minute may end in a leap second.
structure DateTime.Exists (year : Int) (month day hour minute second nanosecond : Nat) : Prop where
  yearWithin : -262143 ≤ year ∧ year ≤ 262142
  monthWithin : 1 ≤ month ∧ month ≤ 12
  dayWithin : 1 ≤ day ∧ day ≤ daysIn year month
  hourWithin : hour < 24
  minuteWithin : minute < 60
  secondWithin : second ≤ 60
  nanosecondWithin : nanosecond < 1000000000

instance (year : Int) (month day hour minute second nanosecond : Nat) :
    Decidable (DateTime.Exists year month day hour minute second nanosecond) :=
  decidable_of_iff
    ((-262143 ≤ year ∧ year ≤ 262142) ∧ (1 ≤ month ∧ month ≤ 12) ∧
      (1 ≤ day ∧ day ≤ daysIn year month) ∧ hour < 24 ∧ minute < 60 ∧ second ≤ 60 ∧
      nanosecond < 1000000000)
    ⟨fun ⟨y, mo, d, h, mi, s, n⟩ => ⟨y, mo, d, h, mi, s, n⟩,
      fun ⟨y, mo, d, h, mi, s, n⟩ => ⟨y, mo, d, h, mi, s, n⟩⟩

structure DateTime where
  year : Int
  month : Nat
  day : Nat
  hour : Nat
  minute : Nat
  second : Nat
  nanosecond : Nat
  valid : DateTime.Exists year month day hour minute second nanosecond
  deriving DecidableEq

namespace DateTime
open Decimal

instance : Inhabited DateTime := ⟨⟨1970, 1, 1, 0, 0, 0, 0, by decide⟩⟩

def ofFields? (year : Int) (month day hour minute second nanosecond : Nat) : Option DateTime :=
  if valid : Exists year month day hour minute second nanosecond then
    some ⟨year, month, day, hour, minute, second, nanosecond, valid⟩
  else none

def padded (width value : Nat) : List Char :=
  let digits := Nat.toDigits 10 value
  List.replicate (width - digits.length) '0' ++ digits

def yearText (year : Int) : List Char :=
  if 0 ≤ year ∧ year ≤ 9999 then padded 4 year.toNat
  else (if year < 0 then '-' else '+') :: padded 4 year.natAbs

def fractionText (nanosecond : Nat) : List Char :=
  if nanosecond = 0 then []
  else if nanosecond % 1000000 = 0 then '.' :: padded 3 (nanosecond / 1000000)
  else if nanosecond % 1000 = 0 then '.' :: padded 6 (nanosecond / 1000)
  else '.' :: padded 9 nanosecond

def text (t : DateTime) : List Char :=
  yearText t.year ++ '-' :: padded 2 t.month ++ '-' :: padded 2 t.day ++
    'T' :: padded 2 t.hour ++ ':' :: padded 2 t.minute ++ ':' :: padded 2 t.second ++
    fractionText t.nanosecond

def skipBlank (text : List Char) : List Char := text.dropWhile Text.isBlank

def takeNumber (most : Nat) (text : List Char) : Option (Nat × List Char) :=
  let text := skipBlank text
  let digits := (text.take most).takeWhile Char.isDigit
  if digits.isEmpty then none else some (digitsValue digits, text.drop digits.length)

-- A sign lifts the bound of four digits.
def takeYear (text : List Char) : Option (Int × List Char) :=
  let text := skipBlank text
  match text with
  | '-' :: rest => signed true rest
  | '+' :: rest => signed false rest
  | _ => (takeNumber 4 text).map fun (value, rest) => ((value : Int), rest)
where
  signed (negative : Bool) (text : List Char) : Option (Int × List Char) :=
    let digits := text.takeWhile Char.isDigit
    if digits.isEmpty then none
    else some (applySign negative (digitsValue digits), text.drop digits.length)

def takeMark (mark : Char) (text : List Char) : Option (List Char) :=
  match skipBlank text with
  | c :: rest => if c = mark then some rest else none
  | [] => none

def takeFraction (text : List Char) : Option (Nat × List Char) :=
  match text with
  | '.' :: rest =>
    let digits := rest.takeWhile Char.isDigit
    let kept := digits.take 9
    if digits.isEmpty then none
    else some (digitsValue kept * Nat.pow 10 (9 - kept.length), rest.dropWhile Char.isDigit)
  | _ => some (0, text)

-- Fields need no padding, and blanks may stand before every field and mark and
-- at the end. The seconds and their fraction are one field.
def ofText? (text : List Char) : Option DateTime := do
  let (year, rest) ← takeYear text
  let (month, rest) ← takeNumber 2 (← takeMark '-' rest)
  let (day, rest) ← takeNumber 2 (← takeMark '-' rest)
  let (hour, rest) ← takeNumber 2 (← takeMark 'T' rest)
  let (minute, rest) ← takeNumber 2 (← takeMark ':' rest)
  let (second, rest) ← takeNumber 2 (← takeMark ':' rest)
  let (nanosecond, rest) ← takeFraction rest
  if (skipBlank rest).isEmpty then ofFields? year month day hour minute second nanosecond else none

end DateTime
end ContentQuery
