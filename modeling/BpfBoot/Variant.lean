import BpfBoot.Config.Basic
import BpfBoot.Files.Access
import BpfBoot.Log.Event

namespace BpfBoot

inductive Variant where
  | platform | module | unknown
  deriving DecidableEq, Repr

namespace Variant

/-- The copy whose entry path is the same as `argv0`; the platform's copy if both are. -/
def ofArgv0 (argv0 : String) (layout : Layout) : Variant :=
  if (Path.ofString argv0).same layout.platformEntry then platform
  else if (Path.ofString argv0).same layout.moduleEntry then module
  else unknown

end Variant

structure InitScripts where
  legacy : Bool
  new : Bool
  deriving DecidableEq, Repr

namespace InitScripts

structure Fault where
  path : Path
  source : IoFault
  deriving DecidableEq, Repr

def Fault.message (f : Fault) : String :=
  "access(" ++ f.path.display ++ ") failed: " ++ f.source.message

def present (fs : FileSystem) (path : Path) : Logged (Except Fault Bool) :=
  match fs.holds path with
  | .error source => return .error ⟨path, source⟩
  | .ok false => return .ok false
  | .ok true => do
    Logged.tell ⟨.info, .variant, "exists", [("path", .plain path.display)]⟩
    return .ok true

def probe (fs : FileSystem) (layout : Layout) : Logged (Except Fault InitScripts) := do
  match ← present fs layout.legacyScript with
  | .error fault => return .error fault
  | .ok legacy =>
    match ← present fs layout.newScript with
    | .error fault => return .error fault
    | .ok new => return .ok ⟨legacy, new⟩

def digits (s : InitScripts) : String :=
  (if s.legacy then "1" else "0") ++ (if s.new then "1" else "0")

end InitScripts

inductive Undecided where
  | unknownVariant (argv0 : String)
  | noScript
  | bothScripts
  deriving DecidableEq, Repr

inductive Decision where
  | proceed
  | delegate (target : Target)
  deriving DecidableEq, Repr

namespace Decision

def resolve (variant : Variant) (argv0 : String) (scripts : InitScripts) :
    Except Undecided Decision :=
  match variant with
  | .unknown => .error (.unknownVariant argv0)
  | .platform => .ok (.delegate .moduleEntry)
  | .module =>
    match scripts.legacy, scripts.new with
    | false, false => .error .noScript
    | true, true => .error .bothScripts
    | true, false => .ok (.delegate .legacyLoader)
    | false, true => .ok .proceed

end Decision

end BpfBoot
