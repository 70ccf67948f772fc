import ContentQuery.Argument
import ContentQuery.CommandLine.Flag
import ContentQuery.Json.Printer
import ContentQuery.Settings
import ContentQuery.Shortcut
import ContentQuery.Text.LowerCase

namespace ContentQuery.CommandLine

def unlines (lines : List String) : String := String.join (lines.map (· ++ "\n"))

-- Columns are measured in characters.
def padded (width : Nat) (text : String) : String := text.pushn ' ' (width - text.length)

def shown : Json → String
  | .null => "NULL"
  | .str text => text
  | value => value.compact

def shownArgument : Argument → String
  | .value value => shown value
  | .clauses list => list.toJson.compact

def settingsListing (settings : Settings) : String :=
  unlines (["postql configuration", ""] ++
    settings.entries.map fun entry => "  " ++ padded 16 entry.1 ++ " " ++ shown entry.2)

def tokenTable (title : String) (tokens : List String) : List String :=
  [title, "  " ++ ", ".intercalate tokens, ""]

def shortcutRow (shortcut : Shortcut) : String :=
  "  " ++ padded 16 shortcut.name ++ " " ++ padded 20 shortcut.target ++ " " ++
    Text.lower shortcut.coercion.name

def grammarListing : String :=
  unlines (["postql grammar", ""] ++
    tokenTable "Operators" Vocabulary.operators ++
    tokenTable "Taxonomy operators" Vocabulary.taxonomyOperators ++
    tokenTable "Comparators" Vocabulary.comparators ++
    tokenTable "Taxonomy fields" Vocabulary.taxonomyFields ++
    ["Shortcuts"] ++ Shortcut.all.map shortcutRow ++
    ["", "Formatters", "  " ++ ", ".intercalate (Format.all.map Format.name)])

def nameWidth (arguments : Arguments) : Nat :=
  (arguments.keys.map String.utf8ByteSize).foldl max 0

def argumentRow (width : Nat) (name value : String) : String := padded width name ++ "   " ++ value

def argumentTable (arguments : Arguments) : String :=
  if arguments.isEmpty then unlines ["(no arguments)"]
  else
    let width := nameWidth arguments
    unlines ([argumentRow width "Argument" "Value", "".pushn '─' (width + 40)] ++
      arguments.entries.map (fun entry => argumentRow width entry.1 (shownArgument entry.2)) ++
      ["", toString arguments.size ++ " argument(s)"])

def Layout.text (arguments : Arguments) : Layout → String
  | .json => unlines [arguments.toJson.pretty]
  | .table => argumentTable arguments

end ContentQuery.CommandLine
