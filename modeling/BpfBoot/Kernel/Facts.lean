import BpfBoot.Kernel.Properties
import BpfBoot.Kernel.Version
import BpfBoot.Log.Event

namespace BpfBoot

inductive BuildType where
  | eng | user | userdebug
  | unknown (name : String)
  deriving DecidableEq, Repr

namespace BuildType

def ofName (name : String) : BuildType :=
  let trimmed := String.ofList (Text.trim name.toList)
  if trimmed = "eng" then eng
  else if trimmed = "user" then user
  else if trimmed = "userdebug" then userdebug
  else unknown trimmed

def name : BuildType → String
  | eng => "eng"
  | user => "user"
  | userdebug => "userdebug"
  | unknown name => name

def isKnown : BuildType → Bool
  | unknown _ => false
  | _ => true

end BuildType

def Api.t : UInt32 := 33
def Api.u : UInt32 := 34
def Api.v : UInt32 := 35

structure Facts where
  kernel : Version
  isX86 : Bool
  isKernel64 : Bool
  isUser32 : Bool
  /-- Zero when the device does not tell. -/
  api : UInt32
  build : BuildType
  deriving DecidableEq, Repr

namespace Facts

def apiAtLeast (f : Facts) (level : UInt32) : Bool := level ≤ f.api

def apiProperty : String := "ro.build.version.sdk"

def buildTypeProperty : String := "ro.build.type"

def x86Machines : List String := ["x86_64", "i386", "i486", "i586", "i686"]

/-- `armv8l` is a 64-bit kernel that shows itself as a 32-bit one. -/
def machines64 : List String := ["x86_64", "aarch64", "armv8l", "riscv64"]

def api? (props : Properties) : Option UInt32 :=
  (props.get? apiProperty).bind fun value => Text.word32? (Text.trim value.toList)

def buildType (props : Properties) : BuildType :=
  BuildType.ofName ((props.get? buildTypeProperty).getD "")

inductive Fault where
  | unreadableRelease (release : String)
  deriving DecidableEq, Repr

def Fault.message : Fault → String
  | .unreadableRelease release => "unparseable kernel release '" ++ release ++ "'"

def ofParts (release machine : String) (props : Properties) : Logged (Except Fault Facts) := do
  match Version.ofRelease? release with
  | none => return .error (.unreadableRelease release)
  | some kernel =>
    if (api? props).isNone then
      Logged.tell ⟨.warn, .probe, "device api level unavailable, assuming 0",
        [("property", .quoted apiProperty)]⟩
    let api := (api? props).getD 0
    let build := buildType props
    Logged.tell ⟨.debug, .probe, "system facts",
      [("release", .plain release), ("machine", .plain machine), ("api_level", .number api.toNat),
        ("build_type", .quoted build.name)]⟩
    return .ok {
      kernel, api, build
      isX86 := x86Machines.contains machine
      isKernel64 := machines64.contains machine
      isUser32 := false }

end Facts

end BpfBoot
