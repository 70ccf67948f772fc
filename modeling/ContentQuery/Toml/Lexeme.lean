import ContentQuery.Decimal.Digits
import ContentQuery.Decimal.Reading
import ContentQuery.Json.Reader

namespace ContentQuery.Toml
open Decimal

def isGap (c : Char) : Bool := c == ' ' || c == '\t'

def skipGap (text : List Char) : List Char := text.dropWhile isGap

def isPlain (c : Char) : Bool := c == '\t' || (0x20 ≤ c.toNat && c.toNat != 0x7f)

def afterBreak? : List Char → Option (List Char)
  | '\n' :: rest => some rest
  | '\r' :: '\n' :: rest => some rest
  | _ => none

-- Gaps, line breaks and comments. A comment that holds a control stops the walk
-- at that control, where nothing else can be read.
def skipLines : (inComment : Bool) → List Char → List Char
  | _, [] => []
  | _, '\n' :: rest => skipLines false rest
  | _, '\r' :: '\n' :: rest => skipLines false rest
  | true, c :: rest => if isPlain c then skipLines true rest else c :: rest
  | false, c :: rest =>
    if isGap c then skipLines false rest
    else if c = '#' then skipLines true rest
    else c :: rest

theorem skipLines_le (inComment : Bool) (text : List Char) :
    (skipLines inComment text).length ≤ text.length := by
  fun_induction skipLines inComment text <;> simp_all <;> omega

def afterLine? (text : List Char) : Option (List Char) :=
  let text := skipGap text
  let text := match text with
    | '#' :: rest => rest.dropWhile isPlain
    | _ => text
  if text.isEmpty then some [] else afterBreak? text

def hexNumber (digits : List Char) : Option Nat :=
  digits.foldlM (fun value c => (Json.hexValue c).map (16 * value + ·)) 0

def scalar? (code : Nat) : Option Char :=
  if code < 0x110000 ∧ ¬ (0xd800 ≤ code ∧ code < 0xe000) then some (Char.ofNat code) else none

def takeEscape : List Char → Option (Char × List Char)
  | 'b' :: rest => some ('\x08', rest)
  | 't' :: rest => some ('\t', rest)
  | 'n' :: rest => some ('\n', rest)
  | 'f' :: rest => some ('\x0c', rest)
  | 'r' :: rest => some ('\r', rest)
  | '"' :: rest => some ('"', rest)
  | '\\' :: rest => some ('\\', rest)
  | 'u' :: rest => do
    if rest.length < 4 then none
    return (← scalar? (← hexNumber (rest.take 4)), rest.drop 4)
  | 'U' :: rest => do
    if rest.length < 8 then none
    return (← scalar? (← hexNumber (rest.take 8)), rest.drop 8)
  | _ => none

def skipBlank : List Char → List Char
  | [] => []
  | '\n' :: rest => skipBlank rest
  | '\r' :: '\n' :: rest => skipBlank rest
  | c :: rest => if isGap c then skipBlank rest else c :: rest

def afterContinuation? (text : List Char) : Option (List Char) :=
  (afterBreak? (skipGap text)).map skipBlank

-- The rest of a text behind its opening quotes. Over several lines a break
-- counts as one line feed, and up to two quotes may stand before the closing three.
def takeBasic (severalLines : Bool) (text : List Char) : Option (List Char × List Char) :=
  let continueWith (read : List Char) (rest : List Char) :=
    if rest.length < text.length then
      (takeBasic severalLines rest).map fun taken => (read ++ taken.1, taken.2)
    else none
  match text with
  | [] => none
  | '"' :: rest =>
    if severalLines then match rest with
      | '"' :: '"' :: '"' :: '"' :: rest => some (['"', '"'], rest)
      | '"' :: '"' :: '"' :: rest => some (['"'], rest)
      | '"' :: '"' :: rest => some ([], rest)
      | _ => continueWith ['"'] rest
    else some ([], rest)
  | '\\' :: rest =>
    match if severalLines then afterContinuation? rest else none with
    | some rest => continueWith [] rest
    | none => (takeEscape rest).bind fun (c, rest) => continueWith [c] rest
  | c :: rest =>
    if isPlain c then continueWith [c] rest
    else if severalLines then (afterBreak? text).bind (continueWith ['\n'])
    else none
termination_by text.length

def takeLiteral (severalLines : Bool) (text : List Char) : Option (List Char × List Char) :=
  let continueWith (read : List Char) (rest : List Char) :=
    if rest.length < text.length then
      (takeLiteral severalLines rest).map fun taken => (read ++ taken.1, taken.2)
    else none
  match text with
  | [] => none
  | '\'' :: rest =>
    if severalLines then match rest with
      | '\'' :: '\'' :: '\'' :: '\'' :: rest => some (['\'', '\''], rest)
      | '\'' :: '\'' :: '\'' :: rest => some (['\''], rest)
      | '\'' :: '\'' :: rest => some ([], rest)
      | _ => continueWith ['\''] rest
    else some ([], rest)
  | c :: rest =>
    if isPlain c then continueWith [c] rest
    else if severalLines then (afterBreak? text).bind (continueWith ['\n'])
    else none
termination_by text.length

def afterOpening (text : List Char) : List Char := (afterBreak? text).getD text

def takeText : List Char → Option (List Char × List Char)
  | '"' :: '"' :: '"' :: rest => takeBasic true (afterOpening rest)
  | '"' :: rest => takeBasic false rest
  | '\'' :: '\'' :: '\'' :: rest => takeLiteral true (afterOpening rest)
  | '\'' :: rest => takeLiteral false rest
  | _ => none

def isBareChar (c : Char) : Bool := c.isAlphanum || c == '_' || c == '-'

def takeKeyPart (text : List Char) : Option (String × List Char) :=
  match text with
  | '"' :: rest => (takeBasic false rest).map fun (key, rest) => (String.ofList key, rest)
  | '\'' :: rest => (takeLiteral false rest).map fun (key, rest) => (String.ofList key, rest)
  | _ =>
    let key := text.takeWhile isBareChar
    if key.isEmpty then none else some (String.ofList key, text.dropWhile isBareChar)

def greatestDepth : Nat := 79

def takeKeyParts (text : List Char) : Option (List String × List Char) := do
  let (part, rest) ← takeKeyPart (skipGap text)
  match skipGap rest with
  | '.' :: after =>
    if after.length < text.length then
      let (parts, rest) ← takeKeyParts after
      return (part :: parts, rest)
    else none
  | rest => return ([part], rest)
termination_by text.length

def takeKey (text : List Char) : Option (List String × List Char) := do
  let (parts, rest) ← takeKeyParts text
  if greatestDepth < parts.length then none
  return (parts, rest)

def ungrouped (isDigit : Char → Bool) : List Char → Option (List Char)
  | [] => none
  | [c] => if isDigit c then some [c] else none
  | c :: '_' :: rest =>
    if isDigit c then (ungrouped isDigit rest).map (c :: ·) else none
  | c :: rest => if isDigit c then (ungrouped isDigit rest).map (c :: ·) else none

def wholeDigits (text : List Char) : Option (List Char) :=
  if text.head? = some '0' ∧ text.length ≠ 1 then none else ungrouped Char.isDigit text

def signedNumber (value : Int) : Option Json :=
  if Json.leastSigned ≤ value ∧ value ≤ Json.greatestSigned then some (Json.int value) else none

def isDigitIn (base : Nat) (c : Char) : Bool :=
  match Json.hexValue c with
  | some value => value < base
  | none => false

def valueIn (base : Nat) (digits : List Char) : Nat :=
  digits.foldl (fun value c => base * value + (Json.hexValue c).getD 0) 0

def inBase (base : Nat) (text : List Char) : Option Json := do
  signedNumber (valueIn base (← ungrouped (isDigitIn base) text))

def exponentOf : List Char → Option Int
  | [] => some 0
  | c :: rest =>
    if c = 'e' ∨ c = 'E' then
      let (negative, digits) := takeSign rest
      (ungrouped Char.isDigit digits).map fun digits => applySign negative (digitsValue digits)
    else none

-- A number below the finite range has no value, which is null; one above it is
-- refused.
def realNumber (negative : Bool) (digits : Nat) (exponent : Int) : Option Json :=
  match Double.ofDecimal negative digits exponent with
  | some value => some (.num (.real value))
  | none => if negative then some .null else none

def decimalNumber (text : List Char) : Option Json := do
  let (negative, text) := takeSign text
  let inPart (c : Char) := c.isDigit || c == '_'
  let whole ← wholeDigits (text.takeWhile inPart)
  match text.dropWhile inPart with
  | [] => signedNumber (applySign negative (digitsValue whole))
  | '.' :: rest =>
    let fraction ← ungrouped Char.isDigit (rest.takeWhile inPart)
    let exponent ← exponentOf (rest.dropWhile inPart)
    realNumber negative (digitsValue (whole ++ fraction)) (exponent - fraction.length)
  | rest => realNumber negative (digitsValue whole) (← exponentOf rest)

def isWordChar (c : Char) : Bool := isBareChar c || c == '.' || c == '+'

def wordValue (word : List Char) : Option Json :=
  match word with
  | ['t', 'r', 'u', 'e'] => some (.bool true)
  | ['f', 'a', 'l', 's', 'e'] => some (.bool false)
  | '0' :: 'x' :: digits => inBase 16 digits
  | '0' :: 'o' :: digits => inBase 8 digits
  | '0' :: 'b' :: digits => inBase 2 digits
  | _ => decimalNumber word

end ContentQuery.Toml
