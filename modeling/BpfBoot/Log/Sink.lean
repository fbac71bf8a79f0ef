import BpfBoot.Config.Load
import BpfBoot.Log.Filter
import BpfBoot.Log.Line

namespace BpfBoot

structure Sink where
  filter : Filter
  file : Option Place
  deriving DecidableEq, Repr

namespace Sink

def filterVariable : String := "RUST_LOG"

inductive EnvironmentFault where
  | unset
  | invalid (reason : Directive.Fault)
  deriving DecidableEq, Repr

def EnvironmentFault.message : EnvironmentFault → String
  | unset => "environment variable not found"
  | invalid reason => reason.message

inductive Fault where
  /-- No filter can be had. If the level was to be tried first, there is also the reason why the
  environment gave none. -/
  | invalidLevel (level : String) (reason : Directive.Fault) (environment : Option EnvironmentFault)
  | unopened (path : Path) (source : IoFault)
  deriving DecidableEq, Repr

namespace Fault

def headline : Fault → String
  | invalidLevel level _ _ => "invalid log level '" ++ level ++ "':"
  | unopened path source =>
    "failed to open log file '" ++ path.display ++ "': " ++ source.message

def message (fault : Fault) : String :=
  match fault with
  | invalidLevel _ reason none => fault.headline ++ " " ++ reason.message
  | invalidLevel _ reason (some second) =>
    fault.headline ++ " " ++ reason.message ++ "; RUST_LOG parse failed: " ++ second.message
  | unopened .. => fault.headline

end Fault

def environmentFilter (env : Environment) : Except EnvironmentFault Filter :=
  match env.text? filterVariable with
  | none => .error .unset
  | some text => (Filter.ofString text).mapError .invalid

/-- The filter named by `level` goes before the one in the environment if it is preferred, and
after it if not. -/
def chooseFilter (env : Environment) (level : String) (prefer : Bool) : Except Fault Filter :=
  match Filter.ofString level, environmentFilter env, prefer with
  | .ok filter, _, true => .ok filter
  | .ok filter, .error _, false => .ok filter
  | _, .ok filter, _ => .ok filter
  | .error reason, .error second, true => .error (.invalidLevel level reason (some second))
  | .error reason, .error _, false => .error (.invalidLevel level reason none)

def init (fs : FileSystem) (env : Environment) (level : String) (prefer : Bool)
    (file : Option Path) : Except Fault Sink :=
  match chooseFilter env level prefer with
  | .error fault => .error fault
  | .ok filter =>
    match file with
    | none => .ok ⟨filter, none⟩
    | some path =>
      match fs.openAppend path with
      | .ok place => .ok ⟨filter, some place⟩
      | .error source => .error (.unopened path source)

def line? (sink : Sink) (e : Event) : Option String :=
  if sink.filter.passes e then some (e.line ++ "\n") else none

end Sink

end BpfBoot
