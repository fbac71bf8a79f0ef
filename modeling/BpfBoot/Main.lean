import BpfBoot.Command.Run
import BpfBoot.Files.Plant

namespace BpfBoot.Rehearsal

open Text (Octets)

def content? (path : Path) : IO (Option Octets) := do
  match ← (IO.FS.readBinFile path.display).toBaseIO with
  | .ok bytes => return some bytes.toList
  | .error _ => return none

def copy (program : Option Termination) (fs : FileSystem) (path : Path) : IO FileSystem := do
  match ← content? path with
  | some bytes => return fs.plant path (.file bytes program)
  | none => return fs

def ended : Termination := .exited 0

def copyProgram (search : SearchPath) (fs : FileSystem) (program : Path) : IO FileSystem := do
  let paths := if program.bytes.contains Path.slash then [program] else search.candidates program
  let fs ← paths.foldlM (copy (some ended)) fs
  let interpreters := paths.filterMap fun path =>
    match (fs.read path).toOption.bind Runner.ofContent? with
    | some (.interpreter path) => some path
    | _ => none
  interpreters.foldlM (copy (some ended)) fs

def textOf (path : String) : IO String := do
  let bytes := (← content? (.ofString path)).getD []
  return String.ofList (Text.trim (Text.decodeLossy bytes).toList)

def variableNames : List String :=
  [Config.pathVariable, Config.levelVariable, Sink.filterVariable, Command.searchVariable]

def invocation (arguments : List String) : IO Command.Invocation := do
  let environment ← variableNames.filterMapM fun name => do
    return (← IO.getEnv name).map fun value => (name, Text.encode value)
  return {
    argv0 := Text.encode (← IO.appPath).toString
    arguments := arguments.map Text.encode
    environment
    kernel := ⟨← textOf "/proc/sys/kernel/osrelease", ← textOf "/proc/sys/kernel/arch"⟩ }

def dataFiles (config : Config) : List Path :=
  let layout := config.layout
  [layout.buildProperties, layout.mountsTable, layout.legacyScript, layout.newScript] ++
    Sysctl.knobs.map (fun knob => layout.sysctlRoot.join (.ofString knob.path))

def programs (config : Config) : List Path :=
  let layout := config.layout
  [Runner.shellPath, layout.moduleEntry, layout.secondStage, layout.legacyLoader] ++
    config.helper.toList

def filesFor (invocation : Command.Invocation) (given : Option String) : IO FileSystem := do
  let named := (Config.chosenPath? invocation.environment given).toList.map Path.ofString
  let fs ← named.foldlM (copy none) .empty
  match Config.load fs invocation.environment given with
  | .error _ => return fs
  | .ok config =>
    let fs ← (dataFiles config).foldlM (copy none) fs
    let search := Command.searchPath invocation.environment .standard
    let fs ← (programs config).foldlM (copyProgram search) fs
    return config.logFile.toList.foldl (fun fs path => fs.plant path (.file [] none)) fs

def noMaps : MapPrimitives Unit :=
  { Handle := Unit
    create := fun _ => return .error (.os .notImplemented)
    write := fun _ _ _ _ => return .error (.os .notImplemented) }

def logged (invocation : Command.Invocation) (given : Option String) (files : FileSystem) :
    String :=
  match Config.load files invocation.environment given with
  | .error _ => ""
  | .ok config => String.join (config.logFile.toList.map fun path =>
    Text.decodeLossy ((files.read path).toOption.getD []))

def status : Termination → UInt32
  | .exited code => code.toUInt32
  | .killed signal => UInt32.ofNat (128 + signal)

/-- Rehearses a run on a copy of the files that it would read, so that nothing of the machine
changes: what would be appended to the log file is shown on the error stream, and a program that
would take over counts as one that succeeds. The kernel's map primitives are not at hand here, and
neither are the directories of objects. -/
def run (arguments : List String) : IO UInt32 := do
  let invocation ← invocation arguments
  let given := match Command.Request.ofArguments arguments with
    | .boot options => options.configPath
    | _ => none
  let files ← filesFor invocation given
  let result := Command.run invocation noMaps (fun _ => pure ())
    { files, umask := 0o022 } ()
  IO.print result.output
  result.notices.forM fun notice => IO.eprint notice.text
  IO.eprint (logged invocation given result.machine.files)
  return status result.ending

end BpfBoot.Rehearsal

def main (arguments : List String) : IO UInt32 := BpfBoot.Rehearsal.run arguments
