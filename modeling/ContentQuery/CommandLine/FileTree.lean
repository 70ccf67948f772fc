import ContentQuery.Settings

namespace ContentQuery.CommandLine

inductive FileTree where
  | file (text : String)
  | folder (entries : List (String × FileTree))

namespace FileTree

def greatestName : Nat := 255
def greatestPath : Nat := 4095

structure Place where
  here : FileTree
  around : List FileTree

namespace Place

def top (place : Place) : Place := ⟨place.around.getLast?.getD place.here, []⟩

-- Only a folder can be walked in, also when the step goes nowhere or up. A step
-- up from the top stays there.
def step (place : Place) (name : String) : Except Unreadable Place :=
  match place.here with
  | .file _ => .error .underFile
  | .folder entries =>
    if name = "" ∨ name = "." then .ok place
    else if name = ".." then
      match place.around with
      | [] => .ok place
      | outer :: around => .ok ⟨outer, around⟩
    else if greatestName < name.utf8ByteSize then .error .nameTooLong
    else
      match entries.lookup name with
      | some found => .ok ⟨found, place.here :: place.around⟩
      | none => .error .missing

def walk (place : Place) (path : String) : Except Unreadable Place :=
  if greatestPath < path.utf8ByteSize then .error .nameTooLong
  else (path.splitOn "/").foldlM step (if path.startsWith "/" then place.top else place)

def read (place : Place) (path : String) : Settings.FileText := do
  match (← place.walk path).here with
  | .file text => .ok text
  | .folder _ => .error .isDirectory

end Place
end FileTree
end ContentQuery.CommandLine
