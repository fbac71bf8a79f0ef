import BpfBoot.Machine

namespace BpfBoot.Pin

def mode : Mode := 0o1777

/-- Makes a directory with exactly the mode of pin directories: the mask is cleared for the call and
set back after it. -/
def makeDirectory (path : Path) (m : Machine) : Except IoFault Unit × Machine :=
  let previous := m.umask
  let cleared := { m with umask := 0 }
  let (result, files) := cleared.files.makeDirectory cleared.umask mode path
  (result, { cleared with files, umask := previous })

variable {σ : Type}

def create (root : Path) (pin : String) : Boot σ Unit := do
  if pin.isEmpty then return
  let path := root.join (.ofString pin)
  match ← Boot.perform (.makeDirectory path) (Boot.onMachine (makeDirectory path)) with
  | .ok () =>
    Boot.tell ⟨.debug, .pin, "created pin directory", [("path", .plain path.display)]⟩
  | .error fault =>
    if fault = .os .alreadyExists then return
    let error := BootError.pinDir path fault
    Boot.tell ⟨.error, .pin, "Failed to create directory",
      [("path", .plain path.display),
        ("errno", .number (error.errno?.getD (-Errno.inputOutput)).toInt)]⟩
    throw error

def createAll (root : Path) (locations : List Location) : Boot σ Unit := do
  locations.forM fun location => create root location.pin
  create root Location.reservedPin

end BpfBoot.Pin
