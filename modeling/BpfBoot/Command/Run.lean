import BpfBoot.Command.Arguments
import BpfBoot.Handoff
import BpfBoot.Kernel.Probe
import BpfBoot.Load.Helper
import BpfBoot.Log.Sink
import BpfBoot.Pipeline

namespace BpfBoot.Command

open Text (Octets)

inductive Notice where
  | missingPath
  | badConfig (fault : Config.Fault)
  | fallback (fault : Sink.Fault)
  | unlogged (fault : Sink.Fault)
  | unwritten (fault : IoFault)
  | logLine (line : String)
  deriving DecidableEq, Repr

def Notice.text : Notice → String
  | .missingPath => "error: -f/--config requires a path argument\n"
  | .badConfig fault => "error: " ++ (BootError.config fault.message).message ++ "\n"
  | .fallback fault =>
    "warning: " ++ (BootError.logger fault.message).message ++ "; logging to stderr\n"
  | .unlogged fault => "warning: " ++ (BootError.logger fault.message).message ++ "\n"
  | .unwritten fault =>
    "[tracing-subscriber] Unable to write an event to the Writer for this Subscriber! Error: " ++
      fault.message ++ "\n\n"
  | .logLine line => line

def searchVariable : String := "PATH"

structure Invocation where
  argv0 : Octets
  arguments : List Octets
  environment : Environment
  kernel : KernelNames

structure Result where
  ending : Termination
  output : String
  notices : List Notice
  machine : Machine

structure Process where
  machine : Machine
  notices : List Notice

namespace Process

def writeEvent (sink : Sink) (p : Process) (e : Event) : Process :=
  match sink.line? e with
  | none => p
  | some line =>
    match sink.file with
    | none => { p with notices := p.notices ++ [.logLine line] }
    | some place =>
      match p.machine.files.append place (Text.encode line) with
      | (.ok (), files) => { p with machine := { p.machine with files } }
      | (.error fault, _) => { p with notices := p.notices ++ [.unwritten fault] }

def write (sink : Option Sink) (events : List Event) (p : Process) : Process :=
  match sink with
  | none => p
  | some sink => events.foldl (writeEvent sink) p

def settle (sink : Option Sink) (m : Machine) (events : List Event) (p : Process) : Process :=
  { p with machine := m }.write sink events

end Process

def openLog (fs : FileSystem) (env : Environment) (level : String) (prefer : Bool)
    (file : Option Path) : Option Sink × List Notice :=
  match Sink.init fs env level prefer file with
  | .ok sink => (some sink, [])
  | .error fault =>
    match Sink.init fs env level prefer none with
    | .ok sink => (some sink, [.fallback fault])
    | .error second => (none, [.fallback fault, .unlogged second])

def finish (outcome : Outcome) (m : Machine) : Logged Termination × Machine :=
  match outcome with
  | .exit code => (pure (.exited code), m)
  | .exec target =>
    let (handed, m) := Handoff.exec target m
    (do
      match ← handed with
      | .ok ending => return ending
      | .error error =>
        Logged.tell ⟨.error, .command, "FATAL: handoff failed",
          [("error", .plain error.message)]⟩
        return .exited error.exitCode, m)

variable {σ : Type}

/-- The run itself and what follows it. Events are in the log before a later part of the run reads
files, so a log that is also the mounts table shows the run what it has told so far. -/
def boot (sink : Option Sink) (config : Config) (facts : Facts) (given : Collaborators σ)
    (argv0 : String) (outside : σ) : StateM Process Termination := do
  let (decided, state) :=
    (Pipeline.decision config facts argv0).runOn (.start (← get).machine outside)
  modify (·.settle sink state.machine state.log)
  let rest : Boot σ Target := do
    Pipeline.carryOut config facts given (← MonadExcept.ofExcept decided)
  let (outcome, state) :=
    Pipeline.outcome config (rest.runOn (.start (← get).machine state.outside))
  modify (·.settle sink state.machine state.log)
  let (ended, m) := finish outcome (← get).machine
  modify (·.settle sink m ended.events)
  return ended.value

def probeAndBoot (sink : Option Sink) (config : Config) (kernel : KernelNames)
    (given : Collaborators σ) (argv0 : String) (outside : σ) : StateM Process Termination := do
  let probed := Facts.detect (← get).machine.files kernel config.layout.buildProperties
  modify (·.write sink probed.events)
  match probed.value with
  | .error fault =>
    modify (·.write sink [⟨.error, .command, "cannot probe system",
      [("error", .plain (BootError.probe fault.message).message)]⟩])
    return .exited 1
  | .ok facts => boot sink config facts given argv0 outside

def collaborators (config : Config) (maps : MapPrimitives σ) (stall : Load.Stall σ) :
    Collaborators σ :=
  { loader := Load.elfLoader Load.spawn config.helper, maps, stall }

def searchPath (env : Environment) (unset : SearchPath) : SearchPath :=
  ((Table.get? searchVariable env).map SearchPath.ofOctets).getD unset

def enter (env : Environment) (sink : Option Sink) (m : Machine) : Machine :=
  { m with
    search := searchPath env m.search
    held := (sink.bind (·.file)).toList ++ m.held }

def leave (before m : Machine) : Machine := { m with search := before.search, held := before.held }

def run (invocation : Invocation) (maps : MapPrimitives σ) (stall : Load.Stall σ)
    (m : Machine) (outside : σ) : Result :=
  match Request.ofArguments (invocation.arguments.map Text.decodeLossy) with
  | .help => ⟨.exited 0, usage, [], m⟩
  | .missingPath => ⟨.exited 1, "", [.missingPath], m⟩
  | .boot options =>
    match Config.load m.files invocation.environment options.configPath with
    | .error fault => ⟨.exited 1, "", [.badConfig fault], m⟩
    | .ok config =>
      let chosen := levelOf? options.verbosity
      let (sink, opened) := openLog m.files invocation.environment
        (chosen.getD config.logLevel) chosen.isSome config.logFile
      let (ending, process) := (probeAndBoot sink config invocation.kernel
        (collaborators config maps stall) (Text.decodeLossy invocation.argv0) outside).run
          ⟨enter invocation.environment sink m, opened⟩
      ⟨ending, "", process.notices, leave m process.machine⟩

end BpfBoot.Command
