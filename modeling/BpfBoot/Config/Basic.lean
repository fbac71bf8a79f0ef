import BpfBoot.Location

namespace BpfBoot

structure Layout where
  platformEntry : Path
  moduleEntry : Path
  secondStage : Path
  legacyLoader : Path
  legacyScript : Path
  newScript : Path
  moduleMount : Path
  mountsTable : Path
  pinRoot : Path
  sysctlRoot : Path
  buildProperties : Path
  deriving DecidableEq, Repr

inductive Target where
  | moduleEntry | legacyLoader | secondStage
  deriving DecidableEq, Repr

def Layout.target (layout : Layout) : Target → Path
  | .moduleEntry => layout.moduleEntry
  | .legacyLoader => layout.legacyLoader
  | .secondStage => layout.secondStage

structure Config where
  layout : Layout
  helper : Option Path
  stall : Nat
  logLevel : String
  logFile : Option Path
  locations : List Location
  deriving DecidableEq, Repr

namespace Config

structure PathChoices where
  root : Option String
  platformEntry : Option String
  moduleEntry : Option String
  secondStage : Option String
  legacyLoader : Option String
  legacyScript : Option String
  newScript : Option String
  moduleMount : Option String
  mountsTable : Option String
  pinRoot : Option String
  sysctlRoot : Option String
  buildProperties : Option String
  deriving DecidableEq, Repr

/-- All that a configuration file may give; whatever it leaves out has a default. An empty log file
stands for the error stream. -/
structure Choices where
  paths : PathChoices
  helper : Option String
  stall : Nat
  logLevel : String
  logFile : String
  deriving DecidableEq, Repr

def PathChoices.none : PathChoices :=
  { root := .none, platformEntry := .none, moduleEntry := .none, secondStage := .none,
    legacyLoader := .none, legacyScript := .none, newScript := .none, moduleMount := .none,
    mountsTable := .none, pinRoot := .none, sysctlRoot := .none, buildProperties := .none }

def defaultStall : Nat := 20
def defaultLogLevel : String := "info"
def defaultLogFile : String := "/dev/kmsg"

def Choices.none : Choices := ⟨.none, Option.none, defaultStall, defaultLogLevel, defaultLogFile⟩

def moduleEntryInMount : String := "bin/netbpfload"

def belowRoot (root : Option Path) (path : String) : Path :=
  match root with
  | some root => root.join (Path.ofString path).belowRoot
  | none => .ofString path

def place (root : Option Path) (given : Option String) (default : String) : Path :=
  match given with
  | some path => .ofString path
  | none => belowRoot root default

/-- A root moves the default paths and leaves given ones. The module's entry stands below its mount
point and the legacy loader is the second stage, unless something else is given. -/
def PathChoices.layout (p : PathChoices) : Layout :=
  let root := p.root.map Path.ofString
  let moduleMount := place root p.moduleMount "/apex/com.android.tethering"
  let secondStage := place root p.secondStage "/system/bin/bpfloader"
  { platformEntry := place root p.platformEntry "/system/bin/netbpfload"
    moduleEntry := (p.moduleEntry.map Path.ofString).getD
      (moduleMount.join (.ofString moduleEntryInMount))
    secondStage
    legacyLoader := (p.legacyLoader.map Path.ofString).getD secondStage
    legacyScript := place root p.legacyScript "/system/etc/init/bpfloader.rc"
    newScript := place root p.newScript "/system/etc/init/netbpfload.rc"
    moduleMount
    mountsTable := place root p.mountsTable "/proc/mounts"
    pinRoot := place root p.pinRoot "/sys/fs/bpf"
    sysctlRoot := place root p.sysctlRoot "/proc/sys"
    buildProperties := place root p.buildProperties "/system/build.prop" }

def Choices.resolve (c : Choices) (level : Option String) : Config :=
  let layout := c.paths.layout
  { layout
    helper := c.helper.map Path.ofString
    stall := c.stall
    logLevel := level.getD c.logLevel
    logFile := if c.logFile.isEmpty then Option.none else some (.ofString c.logFile)
    locations := Location.ofMount layout.moduleMount }

def rootedAt (root : String) : Config :=
  Choices.resolve { Choices.none with paths := { PathChoices.none with root := some root } } .none

end Config

end BpfBoot
