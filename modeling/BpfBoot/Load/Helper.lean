import BpfBoot.Load.Outcome
import BpfBoot.Object.Sections

namespace BpfBoot.Load

open Text (Octets)

variable {σ : Type}

abbrev Spawn (σ : Type) := Path → List Octets → StateM (Machine × σ) (Except IoFault Termination)

def spawn : Spawn σ := fun program arguments => do
  let (m, outside) ← get
  let (ended, m) := m.run none program arguments
  set (m, outside)
  return ended

def errnoOf (fault : IoFault) : Errno := fault.code?.getD .inputOutput

def outcomeOf (critical : Bool) : Except IoFault Termination → Outcome
  | .ok (.exited status) =>
    if status = 0 then .loaded else .failed (Int32.ofNat status.toNat) critical
  | .ok (.killed _) => .failed .inputOutput critical
  | .error fault => .failed (errnoOf fault) critical

/-- Looks at the section names of an object and then runs a helper program on it. An object that
cannot be read or is none fails, but not critically. -/
def elfLoader (spawn : Spawn σ) (helper : Option Path) : Loader σ := fun path location => do
  let (m, _) ← get
  match m.files.read path with
  | .error fault => return pure (.failed (errnoOf fault) false)
  | .ok bytes =>
    match Object.isCritical bytes with
    | .error fault =>
      return do
        Logged.tell ⟨.warn, .helper, "not a loadable object",
          [("path", .plain path.display), ("error", .plain fault.message)]⟩
        return .failed .badFormat false
    | .ok critical =>
      match helper with
      | none =>
        return do
          Logged.tell ⟨.debug, .helper, "no object loader configured",
            [("path", .plain path.display), ("critical", .flag critical)]⟩
          return .failed .notImplemented critical
      | some program =>
        return pure (outcomeOf critical (← spawn program [path.bytes, Text.encode location.pin]))

end BpfBoot.Load
