import ContentQuery.Json.Printer
import ContentQuery.Vocabulary

namespace ContentQuery

inductive Expectation where
  | run
  | character
  | word
  | blank
  deriving Repr, DecidableEq

def Expectation.name : Expectation → String
  | .run => "TakeWhile1"
  | .character => "Char"
  | .word => "Tag"
  | .blank => "MultiSpace"

inductive Unreadable where
  | missing
  | isDirectory
  | underFile
  | nameTooLong
  deriving Repr, DecidableEq

def Unreadable.text : Unreadable → String
  | .missing => "No such file or directory (os error 2)"
  | .isDirectory => "Is a directory (os error 21)"
  | .underFile => "Not a directory (os error 20)"
  | .nameTooLong => "File name too long (os error 36)"

-- Why a call fails. Positions count bytes of the trimmed filter text.
inductive QueryError where
  | unknownShortcut (name : String)
  | illegalOperator (column : String) (operator : Json)
  | unknownColumn (name : String)
  | noAggregate (name : String)
  | unknownFormat (name : String)
  | formatNotNamed (setting : Json)
  | noFormat
  | noStore (format : Format)
  | settingsSyntax (path : String)
  | settingsUnreadable (reason : Unreadable)
  | invalidId (argument : String) (value : Json)
  | invalidPageSize (value : Json)
  | expected (position : Nat) (what : Expectation)
  | trailing (position : Nat) (rest : String)
  deriving Repr, DecidableEq

inductive ErrorKind where
  | unsupported
  | validation
  | notImplemented
  | config
  | store
  | parse
  | io
  deriving Repr, DecidableEq

def ErrorKind.heading : ErrorKind → String
  | .unsupported => "Unsupported operation"
  | .validation => "Validation error"
  | .notImplemented => "Not implemented"
  | .config => "Configuration error"
  | .store => "Store error"
  | .parse => "Parse error"
  | .io => "IO error"

namespace QueryError

def kind : QueryError → ErrorKind
  | unknownShortcut _ => .unsupported
  | illegalOperator _ _ | unknownColumn _ => .validation
  | noAggregate _ => .notImplemented
  | unknownFormat _ | formatNotNamed _ | noFormat | noStore _ | settingsSyntax _ => .config
  | settingsUnreadable _ => .io
  | invalidId _ _ | invalidPageSize _ => .store
  | expected _ _ | trailing _ _ => .parse

def position? : QueryError → Option Nat
  | expected position _ | trailing position _ => some position
  | _ => none

def detail : QueryError → String
  | unknownShortcut name => s!"'{name}'"
  | illegalOperator column operator =>
    s!"Illegal operator and value combination for '{column}': {operator.compact}"
  | unknownColumn name => s!"Invalid column name '{name}'"
  | noAggregate name => name
  | unknownFormat name => s!"unknown formatter '{name}'"
  | formatNotNamed setting =>
    s!"the return setting must be a formatter name, got {setting.compact}"
  | noFormat => "no return formatter configured"
  | noStore format =>
    s!"the '{format.name}' formatter needs a post store, none was configured"
  | settingsSyntax path => s!"{path}: TOML parse error"
  | settingsUnreadable reason => reason.text
  | invalidId argument value => s!"{argument} is not a valid id: {value.compact}"
  | invalidPageSize value => s!"posts_per_page is not an integer: {value.compact}"
  | expected _ what => s!"Expected {what.name}"
  | trailing _ rest => s!"Unexpected trailing content: '{rest}'"

def message (error : QueryError) : String :=
  match error.position? with
  | none => s!"{error.kind.heading}: {error.detail}"
  | some position => s!"{error.kind.heading} at position {position}: {error.detail}"

end QueryError
end ContentQuery
