import BpfBoot.Kernel.Gate
import BpfBoot.Load.Sweep
import BpfBoot.Mounts
import BpfBoot.Pin
import BpfBoot.Sanity
import BpfBoot.Sysctl
import BpfBoot.Variant

namespace BpfBoot

inductive Outcome where
  | exec (target : Path)
  | exit (code : UInt8)
  deriving DecidableEq, Repr

structure Collaborators (σ : Type) where
  loader : Load.Loader σ
  maps : MapPrimitives σ
  stall : Load.Stall σ

namespace Pipeline

variable {σ : Type}

def undecided : Undecided → BootError
  | .unknownVariant argv0 => .unknownVariant argv0
  | .noScript => .initLayout "unable to find platform's bpfloader & netbpfload init scripts"
  | .bothScripts => .initLayout "platform has *both* bpfloader & netbpfload init scripts"

def startingEvent (argv0 : String) (facts : Facts) (variant : Variant) (scripts : InitScripts) :
    Event :=
  ⟨.info, .pipeline, "NetBpfLoad starting",
    [("argv0", .quoted argv0), ("api", .number facts.api.toNat),
      ("kver", .plain facts.kernel.codeText), ("platform", .flag (variant = .platform)),
      ("mainline", .flag (variant = .module)), ("rc", .plain scripts.digits)]⟩

def decision (config : Config) (facts : Facts) (argv0 : String) : Boot σ Decision := do
  let variant := Variant.ofArgv0 argv0 config.layout
  let scripts ← Boot.judged (fun fault => .probe fault.message)
    (InitScripts.probe (← Boot.files) config.layout)
  Boot.tell (startingEvent argv0 facts variant scripts)
  match Decision.resolve variant argv0 scripts with
  | .ok decision => return decision
  | .error fault => throw (undecided fault)

def logVersions (config : Config) : Boot σ Unit := do
  let layout := config.layout
  Boot.logged (Mounts.logVersions (← Boot.files) layout.mountsTable layout.moduleMount)

def work (config : Config) (facts : Facts) (given : Collaborators σ) : Boot σ Unit := do
  Boot.judged (fun refusal => .capability refusal.message) (Gate.check facts)
  Sysctl.apply config.layout.sysctlRoot facts
  Pin.createAll config.layout.pinRoot config.locations
  Load.loadAll given.loader given.stall config.stall config.locations
  Sanity.check given.maps

def carryOut (config : Config) (facts : Facts) (given : Collaborators σ) :
    Decision → Boot σ Target
  | .delegate .moduleEntry => do
    Boot.tell ⟨.info, .pipeline, "Executing apex netbpfload...", []⟩
    return .moduleEntry
  | .delegate other => do
    logVersions config
    Boot.tell
      ⟨.info, .pipeline, "pre two-stage platform, handing over to legacy bpfloader", []⟩
    return other
  | .proceed => do
    logVersions config
    work config facts given
    Boot.tell ⟨.info, .pipeline, "done, transferring control to platform bpfloader.", []⟩
    return .secondStage

def target (config : Config) (facts : Facts) (given : Collaborators σ) (argv0 : String) :
    Boot σ Target := do
  carryOut config facts given (← decision config facts argv0)

def failureEvent (error : BootError) : Event :=
  ⟨.error, .pipeline, "netbpfload failed",
    [("error", .plain error.message), ("errno", .plain error.errnoText)]⟩

def outcome (config : Config) : Except BootError Target × BootState σ → Outcome × BootState σ
  | (.ok next, state) => (.exec (config.layout.target next), state)
  | (.error error, state) =>
    (.exit error.exitCode, { state with log := state.log ++ [failureEvent error] })

/-- Each stage is over before the next one starts, and the first stage that fails ends the run. -/
def run (config : Config) (facts : Facts) (given : Collaborators σ) (argv0 : String)
    (state : BootState σ) : Outcome × BootState σ :=
  outcome config ((target config facts given argv0).runOn state)

end Pipeline

end BpfBoot
