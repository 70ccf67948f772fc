import ContentQuery.CommandLine.Run

namespace ContentQuery.CommandLine

def Invocation.settingsFile? : Invocation → Option String
  | .version => none
  | .run named _ => named

def usage : String :=
  "usage: postql [--config PATH] [-v] compile|grammar|config [OPTION...]"

-- The number of an error may come negated.
def isNumbered (number code : UInt32) : Bool := code == number || code == -number

def unreadable : IO.Error → Unreadable
  | .inappropriateType _ code _ => if isNumbered 20 code then .underFile else .isDirectory
  | .invalidArgument _ code _ => if isNumbered 36 code then .nameTooLong else .missing
  | _ => .missing

def readSettings (path : String) : IO Settings.FileText := do
  try
    return .ok (← IO.FS.readFile path)
  catch error => return .error (unreadable error)

def usualPath : IO (Option String) := do
  let home ← IO.getEnv "HOME"
  let configHome := (← IO.getEnv "XDG_CONFIG_HOME").filter (·.startsWith "/")
  return (configHome.or (home.map (· ++ "/.config"))).map (· ++ "/postql/config.toml")

def machineFor (invocation : Invocation) : IO Machine := do
  match invocation.settingsFile?, ← usualPath with
  | some path, _ =>
    let text ← readSettings path
    return ⟨none, fun _ => text⟩
  | none, some path => return ⟨some (path, ← readSettings path), fun _ => .error .missing⟩
  | none, none => return ⟨none, fun _ => .error .missing⟩

end ContentQuery.CommandLine

open ContentQuery.CommandLine

def main (words : List String) : IO UInt32 := do
  match Invocation.ofWords? (← IO.getEnv "POSTQL_CONFIG") words with
  | none =>
    IO.eprintln usage
    return 2
  | some invocation =>
    match invocation.output (← machineFor invocation) with
    | .ok shown =>
      IO.print shown
      return 0
    | .error failure =>
      IO.eprintln s!"Error: {failure.message}"
      return 1
