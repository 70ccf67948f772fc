import ContentQuery.Decimal.Shortest
import ContentQuery.Json.Basic

namespace ContentQuery

def zeros (count : Int) : String := "".pushn '0' count.toNat

structure NumberStyle where
  leastPositional : Int
  firstScientific : Int

def jsonNumbers : NumberStyle := ⟨-5, 16⟩

-- A positional text has a digit on both sides of the point. A scientific one
-- has a point only after more than one digit, and always a sign but no padding
-- in its exponent.
def NumberStyle.text (style : NumberStyle) (value : Decimal) : String :=
  let digits := Nat.toDigits 10 value.significand
  let leading : Int := value.exponent + digits.length - 1
  if style.leastPositional ≤ leading ∧ leading < style.firstScientific then
    if 0 ≤ value.exponent then String.ofList digits ++ zeros value.exponent ++ ".0"
    else if 0 ≤ leading then
      let whole := (leading + 1).toNat
      String.ofList (digits.take whole) ++ "." ++ String.ofList (digits.drop whole)
    else "0." ++ zeros (-leading - 1) ++ String.ofList digits
  else
    let tail := if digits.length = 1 then "" else "." ++ String.ofList (digits.drop 1)
    let sign := if leading < 0 then "-" else "+"
    String.ofList (digits.take 1) ++ tail ++ "e" ++ sign ++ toString leading.natAbs

def Double.text (d : Double) : String :=
  (if d.negative then "-" else "") ++ jsonNumbers.text d.shortest

def intText (value : Int) : String :=
  if value < 0 then "-" ++ toString value.natAbs else toString value.natAbs

def Number.text : Number → String
  | .int value => intText value
  | .real value => value.text

namespace Json

def hexDigit (value : Nat) : Char := (Nat.toDigits 16 (value % 16)).headD '0'

def escapeChar (c : Char) : List Char :=
  if c = '"' then ['\\', '"']
  else if c = '\\' then ['\\', '\\']
  else if c = '\n' then ['\\', 'n']
  else if c = '\r' then ['\\', 'r']
  else if c = '\t' then ['\\', 't']
  else if c = '\x08' then ['\\', 'b']
  else if c = '\x0c' then ['\\', 'f']
  else if c.toNat < 0x20 then ['\\', 'u', '0', '0', hexDigit (c.toNat / 16), hexDigit c.toNat]
  else [c]

def quote (text : String) : String :=
  String.ofList ('"' :: text.toList.flatMap escapeChar ++ ['"'])

mutual

def compact : Json → String
  | .null => "null"
  | .bool value => if value then "true" else "false"
  | .num value => value.text
  | .str text => quote text
  | .arr items => "[" ++ ",".intercalate (compactItems items) ++ "]"
  | .obj fields => "\x7b" ++ ",".intercalate (compactFields fields) ++ "\x7d"

def compactItems : List Json → List String
  | [] => []
  | item :: rest => item.compact :: compactItems rest

def compactFields : List (String × Json) → List String
  | [] => []
  | (name, value) :: rest => (quote name ++ ":" ++ value.compact) :: compactFields rest

end

def newline (depth : Nat) : String := "\n" ++ "".pushn ' ' (2 * depth)

def block (opening closing : String) (depth : Nat) (members : List String) : String :=
  if members.isEmpty then opening ++ closing
  else opening ++ newline (depth + 1) ++ ("," ++ newline (depth + 1)).intercalate members ++
    newline depth ++ closing

mutual

def prettyAt (depth : Nat) : Json → String
  | .null => "null"
  | .bool value => if value then "true" else "false"
  | .num value => value.text
  | .str text => quote text
  | .arr items => block "[" "]" depth (prettyItems (depth + 1) items)
  | .obj fields => block "\x7b" "\x7d" depth (prettyFields (depth + 1) fields)

def prettyItems (depth : Nat) : List Json → List String
  | [] => []
  | item :: rest => item.prettyAt depth :: prettyItems depth rest

def prettyFields (depth : Nat) : List (String × Json) → List String
  | [] => []
  | (name, value) :: rest => (quote name ++ ": " ++ value.prettyAt depth) :: prettyFields depth rest

end

def pretty (value : Json) : String := value.prettyAt 0

end Json
end ContentQuery
