import BpfBoot.Kernel.Facts
import BpfBoot.Machine

namespace BpfBoot

structure Knob where
  path : String
  value : String
  /-- The kernel from which on the file must be there, so that a failed write is fatal. -/
  fatalFrom : Version
  deriving DecidableEq, Repr

namespace Sysctl

def knobs : List Knob :=
  [⟨"kernel/unprivileged_bpf_disabled", "0\n", ⟨5, 13, 0⟩⟩,
    ⟨"net/core/bpf_jit_enable", "1\n", ⟨4, 14, 0⟩⟩,
    ⟨"net/core/bpf_jit_kallsyms", "1\n", ⟨4, 14, 0⟩⟩]

/-- Writes a value over the start of an existing file; a write that takes only a part of the value
has failed. -/
def write (path : Path) (value : String) (m : Machine) : Except IoFault Unit × Machine :=
  let data := Text.encode value
  let (result, files) := m.files.overwrite m.writeLimit path data
  (match result with
    | .error fault => .error fault
    | .ok count => if count = data.length then .ok () else .error (.os .invalid),
    { m with files })

def shownValue (knob : Knob) : String := String.ofList (Text.trimEnd knob.value.toList)

variable {σ : Type}

def applyKnob (root : Path) (knob : Knob) (kernel : Version) : Boot σ Unit := do
  let path := root.join (.ofString knob.path)
  match ← Boot.perform (.writeKnob path) (Boot.onMachine (write path knob.value)) with
  | .ok () =>
    Boot.tell ⟨.info, .sysctl, "sysctl set",
      [("path", .plain path.display), ("value", .quoted (shownValue knob))]⟩
  | .error fault =>
    if kernel.atLeast knob.fatalFrom then
      Boot.tell ⟨.error, .sysctl, "sysctl write failed",
        [("path", .plain path.display), ("value", .quoted (shownValue knob)),
          ("error", .plain fault.message)]⟩
      throw (.sysctl path fault)
    else
      Boot.tell ⟨.warn, .sysctl, "sysctl write failed, tolerated on this kernel",
        [("path", .plain path.display), ("error", .plain fault.message),
          ("kernel", .plain kernel.text)]⟩

def apply (root : Path) (facts : Facts) : Boot σ Unit := do
  if facts.apiAtLeast Api.u then
    knobs.forM fun knob => applyKnob root knob facts.kernel

end Sysctl

end BpfBoot
