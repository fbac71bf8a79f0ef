import BpfBoot.Load.Outcome

namespace BpfBoot.Load

open Text (Octets)

def suffix : String := ".o"

def isObjectName (name : Path.Name) : Bool :=
  suffix.toList.isSuffixOf (Text.decodeLossy name).toList

abbrev Entry := Except IoFault Path.Name

def objectNames (listing : List Entry) : List Path.Name :=
  (listing.filterMap Except.toOption).filter isObjectName

variable {σ : Type}

def loadObject (loader : Loader σ) (location : Location) (report : Report) (name : Path.Name) :
    Boot σ Report := do
  let path := location.dir.join ⟨name⟩
  let outcome ← Boot.logged (← Boot.perform (.load path location) (loader path location))
  match outcome with
  | .loaded => Boot.tell ⟨.info, .sweep, "Loaded object", [("path", .plain path.display)]⟩
  | .failed errno critical =>
    Boot.tell ⟨.error, .sweep, "Failed to load object",
      [("path", .plain path.display), ("critical", .flag critical),
        ("error", .plain (IoFault.os errno).message)]⟩
  return report.add outcome

def loadListing (loader : Loader σ) (location : Location) (listing : List Entry) :
    Boot σ Report :=
  (objectNames listing).foldlM (loadObject loader location) .empty

def loadLocation (loader : Loader σ) (location : Location) : Boot σ Report := do
  match (← Boot.files).list location.dir with
  | .error fault =>
    if fault = .os .noEntry then
      Boot.tell ⟨.debug, .sweep, "location absent, skipping",
        [("dir", .plain location.dir.display)]⟩
    else
      Boot.tell ⟨.warn, .sweep, "cannot list location, skipping",
        [("dir", .plain location.dir.display), ("error", .plain fault.message)]⟩
    return .empty
  | .ok names => loadListing loader location (names.map .ok)

def diagnosis (location : Location) : List String :=
  ["=== CRITICAL FAILURE LOADING BPF PROGRAMS FROM " ++ location.dir.display ++ " ===",
    "If this triggers reliably, you're probably missing kernel options or patches.",
    "If this triggers randomly, you might be hitting some memory allocation problems " ++
      "or startup script race.",
    "--- DO NOT EXPECT SYSTEM TO BOOT SUCCESSFULLY ---"]

abbrev Stall (σ : Type) := Nat → StateM (Machine × σ) Unit

/-- Every object of a location is attempted, whatever came of the ones before it; the sweep ends
after the first location with a critical failure. The diagnosis then stays on the console for as
long as the stall takes. -/
def loadAll (loader : Loader σ) (stall : Stall σ) (seconds : Nat) : List Location → Boot σ Unit
  | [] => return
  | location :: rest => do
    let report ← loadLocation loader location
    Boot.tell ⟨.debug, .sweep, "location done",
      [("dir", .plain location.dir.display), ("report", .plain report.text)]⟩
    match report.critical with
    | none => loadAll loader stall seconds rest
    | some errno =>
      (diagnosis location).forM fun line => Boot.tell ⟨.error, .sweep, line, []⟩
      Boot.perform (.stall seconds) (stall seconds)
      throw (.criticalLoad location.dir errno)

end BpfBoot.Load
