import BpfBoot.Machine
import BpfBoot.Log.Event

namespace BpfBoot.Handoff

def exec (target : Path) (m : Machine) : Logged (Except BootError Termination) × Machine :=
  let (ended, m) := m.run (some .shell) target []
  (do
    Logged.tell ⟨.info, .handoff, "executing", [("target", .plain target.display)]⟩
    return ended.mapError (.exec target), m)

end BpfBoot.Handoff
