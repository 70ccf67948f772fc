import ContentQuery.Decimal.Digits
import ContentQuery.Json.Printer
import ContentQuery.Text.Blank

namespace ContentQuery

inductive Coercion where
  | text
  | integer
  | array
  deriving Repr, DecidableEq

namespace Coercion

def toText : Json → Json
  | .str raw => .str (Text.trim raw)
  | .num number => .str number.text
  | .bool value => .str (if value then "1" else "")
  | .null => .str ""
  | value => value

def clamp (value : Int) : Int := max Json.leastSigned (min Json.greatestSigned value)

-- A sign at most, then the digits up to the first other character. Digits whose
-- number exceeds 63 bits count as none.
def leadingInteger (text : List Char) : Int :=
  let (sign, rest) : Int × List Char := match text with
    | '-' :: rest => (-1, rest)
    | '+' :: rest => (1, rest)
    | _ => (1, text)
  let value : Int := Decimal.digitsValue (rest.takeWhile Char.isDigit)
  if value ≤ Json.greatestSigned then sign * value else 0

def integerOf : Json → Int
  | .num (.int value) => clamp value
  | .num (.real value) => clamp value.truncate
  | .str raw => leadingInteger (Text.trimChars raw.toList)
  | .bool value => if value then 1 else 0
  | .arr items => if items.isEmpty then 0 else 1
  | .obj fields => if fields.isEmpty then 0 else 1
  | .null => 0

-- Only the strings of the outermost array are trimmed.
def trimItem : Json → Json
  | .str raw => .str (Text.trim raw)
  | value => value

def toArray : Json → Json
  | .arr items => .arr (items.map trimItem)
  | value => .arr [trimItem value]

def apply : Coercion → Json → Json
  | .text, value => toText value
  | .integer, value => Json.int (integerOf value)
  | .array, value => toArray value

def name : Coercion → String
  | .text => "String"
  | .integer => "Integer"
  | .array => "Array"

end Coercion
end ContentQuery
