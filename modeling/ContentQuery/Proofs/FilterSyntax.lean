import ContentQuery.Filter.Reader

namespace ContentQuery.Filter
open Text

def Stops (keep : Char → Bool) : List Char → Prop
  | [] => True
  | c :: _ => keep c = false

instance (keep : Char → Bool) (text : List Char) : Decidable (Stops keep text) :=
  match text with
  | [] => isTrue trivial
  | c :: _ => inferInstanceAs (Decidable (keep c = false))

@[ext] structure Run (keep : Char → Bool) where
  chars : List Char
  kept : ∀ c ∈ chars, keep c = true

@[ext] structure Filled (keep : Char → Bool) extends Run keep where
  filled : chars ≠ []

abbrev Spacing := Run isSpace
abbrev Identifier := Filled isIdentifierChar

inductive Quote where
  | single
  | double
  deriving Repr, DecidableEq

def Quote.mark : Quote → Char
  | single => '\''
  | double => '"'

-- What may stand in a list. A quoted text has no escapes, so its own mark is
-- never inside it.
inductive Item where
  | quoted (quote : Quote) (inner : Run (· != quote.mark))
  | word (run : Filled isWordChar)

namespace Item

def chars : Item → List Char
  | quoted quote inner => quote.mark :: (inner.chars ++ [quote.mark])
  | word run => run.chars

def value : Item → Json
  | quoted _ inner => .str (String.ofList inner.chars)
  | word run => wordValue run.chars

end Item

structure Further where
  before : Spacing
  after : Spacing
  item : Item

def Further.chars (further : Further) : List Char :=
  further.before.chars ++ ',' :: (further.after.chars ++ further.item.chars)

inductive Listing where
  | bare (inner : Spacing)
  | filled (before : Spacing) (first : Item) (more : List Further) (after : Spacing)

namespace Listing

def chars : Listing → List Char
  | bare inner => '[' :: (inner.chars ++ [']'])
  | filled before first more after =>
    '[' :: (before.chars ++ (first.chars ++ (more.flatMap Further.chars ++ (after.chars ++ [']']))))

def values : Listing → List Json
  | bare _ => []
  | filled _ first more _ => first.value :: more.map fun further => further.item.value

end Listing

inductive Operand where
  | list (listing : Listing)
  | single (item : Item)

namespace Operand

def chars : Operand → List Char
  | list listing => listing.chars
  | single item => item.chars

def value : Operand → Json
  | list listing => .arr listing.values
  | single item => item.value

end Operand

inductive Operator where
  | symbol (token : List Char) (known : token ∈ symbols)
  | word (letters : List Char) (known : letters.map Char.toUpper ∈ words)

namespace Operator

def chars : Operator → List Char
  | symbol token _ => token
  | word letters _ => letters

def name (operator : Operator) : String := String.ofList (operator.chars.map Char.toUpper)

-- Only a word has to be set off from what follows it.
def Ends (operator : Operator) (rest : List Char) : Prop :=
  match operator with
  | symbol _ _ => True
  | word _ _ => endsWord rest = true

end Operator

structure Operation where
  gap : Spacing
  operator : Operator
  space : Spacing
  operand : Operand
  ended : operator.Ends (space.chars ++ operand.chars)

def Operation.chars (operation : Operation) : List Char :=
  operation.gap.chars ++
    (operation.operator.chars ++ (operation.space.chars ++ operation.operand.chars))

-- A comparison as it is written. The target is as long as it can be.
structure Phrase where
  target : Identifier
  operation : Operation
  maximal : Stops isIdentifierChar operation.chars

namespace Phrase

def chars (phrase : Phrase) : List Char := phrase.target.chars ++ phrase.operation.chars

def comparison (phrase : Phrase) : Comparison :=
  ⟨String.ofList phrase.target.chars, phrase.operation.operator.name,
    phrase.operation.operand.value⟩

end Phrase

structure MetaPhrase where
  phrase : Phrase
  comparator : Option Identifier

namespace MetaPhrase

def suffix : Option Identifier → List Char
  | none => []
  | some comparator => ':' :: ':' :: comparator.chars

def chars (written : MetaPhrase) : List Char := written.phrase.chars ++ suffix written.comparator

def comparison (written : MetaPhrase) : MetaComparison :=
  ⟨written.phrase.comparison, written.comparator.map fun comparator => String.ofList comparator.chars⟩

end MetaPhrase

inductive Terms where
  | compared (operation : Operation)
  | given (space : Filled isSpace) (operand : Operand)

namespace Terms

def chars : Terms → List Char
  | compared operation => operation.chars
  | given space operand => space.chars ++ operand.chars

def operator : Terms → Option String
  | compared operation => some operation.operator.name
  | given _ _ => none

def value : Terms → Json
  | compared operation => operation.operand.value
  | given _ operand => operand.value

end Terms

structure TermPhrase where
  taxonomy : Identifier
  field : Identifier
  terms : Terms
  maximal : Stops isIdentifierChar terms.chars

namespace TermPhrase

def chars (phrase : TermPhrase) : List Char :=
  phrase.taxonomy.chars ++ '.' :: (phrase.field.chars ++ phrase.terms.chars)

def termMatch (phrase : TermPhrase) : TermMatch :=
  ⟨String.ofList phrase.taxonomy.chars, String.ofList phrase.field.chars, phrase.terms.operator,
    phrase.terms.value⟩

end TermPhrase
end ContentQuery.Filter
