import BpfBoot.Config.Schema
import BpfBoot.Files.Access

namespace BpfBoot

open Text (Octets)

abbrev Environment := List (String × Octets)

/-- A variable's value; one that is no text counts as unset. -/
def Environment.text? (env : Environment) (name : String) : Option String :=
  (Table.get? name env).bind Text.decode?

namespace Config

def pathVariable : String := "NETBPFLOAD_CONFIG"

def levelVariable : String := "NETBPFLOAD_LOG_LEVEL"

inductive Fault where
  | unreadable (path : Path) (source : IoFault)
  | malformed (path : Path) (reason : Mismatch)
  deriving DecidableEq, Repr

namespace Fault

def headline : Fault → String
  | unreadable path source => "cannot read " ++ path.display ++ ": " ++ source.message
  | malformed path _ => "parse error in " ++ path.display ++ ":"

def message : Fault → String
  | malformed path reason => (malformed path reason).headline ++ " " ++ reason.message
  | fault => fault.headline

end Fault

def loadFrom (fs : FileSystem) (path : Path) (level : Option String) : Except Fault Config := do
  let text ← (fs.readText path).mapError (.unreadable path)
  let choices ← (Choices.ofText text).mapError (.malformed path)
  return choices.resolve level

def chosenPath? (env : Environment) (given : Option String) : Option String :=
  given.or (env.text? pathVariable)

def load (fs : FileSystem) (env : Environment) (given : Option String) : Except Fault Config :=
  let level := env.text? levelVariable
  match chosenPath? env given with
  | some path => loadFrom fs (.ofString path) level
  | none => .ok (Choices.none.resolve level)

end Config

end BpfBoot
