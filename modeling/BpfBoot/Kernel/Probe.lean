import BpfBoot.Files.Access
import BpfBoot.Kernel.Facts

namespace BpfBoot

structure KernelNames where
  release : String
  machine : String
  deriving DecidableEq, Repr

namespace Facts

def readProperties (fs : FileSystem) (path : Path) : Logged Properties :=
  match fs.readText path with
  | .ok text => return .ofText text
  | .error fault => do
    Logged.tell ⟨.warn, .probe, "cannot read build properties",
      [("path", .plain path.display), ("error", .plain fault.message)]⟩
    return .empty

def detect (fs : FileSystem) (kernel : KernelNames) (path : Path) :
    Logged (Except Fault Facts) := do
  ofParts kernel.release kernel.machine (← readProperties fs path)

end Facts

end BpfBoot
