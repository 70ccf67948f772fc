import ContentQuery.CommandLine.Flag

namespace ContentQuery.CommandLine

structure Taken where
  given : List Given
  rest : List String
  deriving Repr, DecidableEq

def Taken.behind (given : List Given) (taken : Taken) : Taken :=
  ⟨given ++ taken.given, taken.rest⟩

inductive Word where
  | named (name : String) (value : Option String)
  | letters (letters : List Char)
  | separator
  | plain
  deriving Repr, DecidableEq

def Word.ofText (text : String) : Word :=
  match text.toList with
  | ['-', '-'] => .separator
  | '-' :: '-' :: body =>
    .named (String.ofList (body.takeWhile (· != '=')))
      (match body.dropWhile (· != '=') with
        | [] => none
        | _ :: value => some (String.ofList value))
  | '-' :: letter :: more => .letters (letter :: more)
  | _ => .plain

-- What letters behind one hyphen give, and the flag whose value is still to
-- come. A value may follow its letter at once or behind an equals sign.
def takeLetters (known : List Flag) : List Char → Option (List Given × Option Flag)
  | [] => some ([], none)
  | letter :: rest => do
    let flag ← known.find? fun flag => flag.letter? == some letter
    if flag.takesValue then
      match rest with
      | [] => return ([], some flag)
      | '=' :: value => return ([⟨flag, String.ofList value⟩], none)
      | value => return ([⟨flag, String.ofList value⟩], none)
    else if flag = .version then return ([⟨flag, ""⟩], none)
    else
      let (given, waiting) ← takeLetters known rest
      return (⟨flag, ""⟩ :: given, waiting)

def takeNamed (known : List Flag) (name : String) (value : Option String) :
    Option (List Given × Option Flag) := do
  let flag ← known.find? (·.name == name)
  match value, flag.takesValue with
  | some value, true => return ([⟨flag, value⟩], none)
  | none, true => return ([], some flag)
  | none, false => return ([⟨flag, ""⟩], none)
  | some _, false => none

-- Nothing may follow the separator, since no task takes plain words. Asking for
-- the version ends reading.
def takeFlags (known : List Flag) : List String → Option Taken
  | [] => some ⟨[], []⟩
  | word :: rest =>
    let flags := match Word.ofText word with
      | .named name value => takeNamed known name value
      | .letters letters => takeLetters known letters
      | .separator | .plain => none
    match Word.ofText word, flags with
    | .plain, _ => some ⟨[], word :: rest⟩
    | .separator, _ => if rest.isEmpty then some ⟨[], []⟩ else none
    | _, none => none
    | _, some (given, none) =>
      if isGiven .version given then some ⟨given, []⟩
      else (takeFlags known rest).map (Taken.behind given)
    | _, some (given, some flag) =>
      match rest with
      | [] => none
      | value :: rest =>
        if Word.ofText value = .plain then
          (takeFlags known rest).map (Taken.behind (given ++ [⟨flag, value⟩]))
        else none

end ContentQuery.CommandLine
