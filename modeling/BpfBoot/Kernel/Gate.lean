import BpfBoot.Kernel.Facts

namespace BpfBoot

inductive Severity where
  | warn | fail
  deriving DecidableEq, Repr

structure Requirement where
  api : UInt32
  release : String
  least : Version
  severity : Severity
  deriving DecidableEq, Repr

namespace Requirement

def violatedBy (r : Requirement) (f : Facts) : Bool :=
  f.apiAtLeast r.api && !f.kernel.atLeast r.least

def message (r : Requirement) : String :=
  "Android " ++ r.release ++ " requires kernel " ++ r.least.text ++ "."

end Requirement

namespace Gate

def requirements : List Requirement :=
  [⟨Api.t, "T", ⟨4, 9, 0⟩, .warn⟩, ⟨Api.u, "U", ⟨4, 14, 0⟩, .warn⟩, ⟨Api.v, "V", ⟨4, 19, 0⟩, .fail⟩]

def user64From : Version := ⟨6, 2, 0⟩

def violations (table : List Requirement) (f : Facts) : List Requirement :=
  table.filter (·.violatedBy f)

inductive Refusal where
  | oldKernel (requirement : Requirement)
  | x86Kernel32
  | user32
  | unknownBuild (name : String)
  deriving DecidableEq, Repr

def Refusal.message : Refusal → String
  | .oldKernel requirement => requirement.message
  | .x86Kernel32 => "Android V requires X86 kernel to be 64-bit."
  | .user32 => "64-bit userspace required on 6.2+ kernels."
  | .unknownBuild name =>
    "Failed to determine the build type: got '" ++ name ++ "', want 'eng', 'user', or 'userdebug'"

def violationEvent (level : Level) (r : Requirement) (f : Facts) : Event :=
  ⟨level, .gate, r.message, [("kernel", .plain f.kernel.text)]⟩

/-- Goes through violated requirements up to the first fatal one. -/
def judge (f : Facts) : List Requirement → Logged (Except Refusal Unit)
  | [] => return .ok ()
  | r :: rest =>
    match r.severity with
    | .warn => do
      Logged.tell (violationEvent .warn r f)
      judge f rest
    | .fail => do
      Logged.tell (violationEvent .error r f)
      return .error (.oldKernel r)

def unmet? (f : Facts) : Option Refusal :=
  if f.apiAtLeast Api.v && f.isX86 && !f.isKernel64 then some .x86Kernel32
  else if f.isUser32 && f.kernel.atLeast user64From then some .user32
  else if !f.build.isKnown then some (.unknownBuild f.build.name)
  else none

def checkAgainst (table : List Requirement) (f : Facts) : Logged (Except Refusal Unit) := do
  match ← judge f (violations table f) with
  | .error refusal => return .error refusal
  | .ok () =>
    match unmet? f with
    | none => return .ok ()
    | some refusal =>
      Logged.tell ⟨.error, .gate, refusal.message, []⟩
      return .error refusal

def check (f : Facts) : Logged (Except Refusal Unit) := checkAgainst requirements f

end Gate

end BpfBoot
