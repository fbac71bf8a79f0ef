import BpfBoot.Error
import BpfBoot.Files.Execute
import BpfBoot.Location
import BpfBoot.Log.Event

namespace BpfBoot

open Text (Octets)

structure Machine where
  files : FileSystem
  umask : Mode
  writeLimit : Option Nat := none
  search : SearchPath := .standard
  held : List Place := []
  runs : List (List Octets) := []
  deriving DecidableEq

namespace Machine

def setUmask (mask : Mode) (m : Machine) : Machine := { m with umask := mask &&& 0o777 }

/-- Runs a program with arguments. A run that starts is noted under the path it starts from. -/
def run (otherwise : Option Runner) (program : Path) (arguments : List Octets) (m : Machine) :
    Except IoFault Termination × Machine :=
  if arguments.any (·.contains 0) then (.error .nulInArgument, m)
  else match m.files.execute m.held otherwise m.search program with
    | .error fault => (.error fault, m)
    | .ok (started, ending) =>
      (.ok ending, { m with runs := m.runs ++ [started.bytes :: arguments] })

end Machine

inductive Effect where
  | writeKnob (path : Path)
  | makeDirectory (path : Path)
  | load (path : Path) (location : Location)
  | stall (seconds : Nat)
  | createMap
  | writeMap
  deriving DecidableEq, Repr

/-- The state of a run. `outside` belongs to the collaborators that the run was given. -/
structure BootState (σ : Type) where
  machine : Machine
  outside : σ
  log : List Event
  effects : List Effect

def BootState.start {σ : Type} (machine : Machine) (outside : σ) : BootState σ :=
  ⟨machine, outside, [], []⟩

/-- Whether or not a step fails, what it changed, logged and did stays. -/
abbrev Boot (σ : Type) := ExceptT BootError (StateM (BootState σ))

namespace Boot

variable {σ α ε : Type}

def runOn (step : Boot σ α) (state : BootState σ) : Except BootError α × BootState σ := step state

def tell (e : Event) : Boot σ Unit := modify fun s => { s with log := s.log ++ [e] }

def files : Boot σ FileSystem := return (← get).machine.files

def logged (x : Logged α) : Boot σ α := do
  modify fun s => { s with log := s.log ++ x.events }
  return x.value

def judged (error : ε → BootError) (x : Logged (Except ε α)) : Boot σ α := do
  match ← logged x with
  | .ok a => return a
  | .error e => throw (error e)

/-- The only steps that reach the machine and the collaborators' state. There is none without an
effect on the list. -/
def perform (effect : Effect) (step : StateM (Machine × σ) α) : Boot σ α := do
  let s ← get
  let (a, machine, outside) := step (s.machine, s.outside)
  set { s with machine, outside, effects := s.effects ++ [effect] }
  return a

def onMachine (step : Machine → α × Machine) : StateM (Machine × σ) α := fun w =>
  ((step w.1).1, (step w.1).2, w.2)

section Runs

variable {β : Type} (s : BootState σ)

@[simp] theorem runOn_pure (a : α) : (pure a : Boot σ α).runOn s = (.ok a, s) := rfl

@[simp] theorem runOn_throw (e : BootError) : (throw e : Boot σ α).runOn s = (.error e, s) := rfl

@[simp] theorem runOn_tell (e : Event) :
    (tell e : Boot σ Unit).runOn s = (.ok (), { s with log := s.log ++ [e] }) := rfl

@[simp] theorem runOn_files : (files : Boot σ FileSystem).runOn s = (.ok s.machine.files, s) := rfl

@[simp] theorem runOn_logged (x : Logged α) :
    (logged x : Boot σ α).runOn s = (.ok x.value, { s with log := s.log ++ x.events }) := rfl

@[simp] theorem runOn_judged (error : ε → BootError) (x : Logged (Except ε α)) :
    (judged error x : Boot σ α).runOn s =
      (x.value.mapError error, { s with log := s.log ++ x.events }) := by
  obtain ⟨value, events⟩ := x
  cases value <;> rfl

@[simp] theorem runOn_perform (effect : Effect) (step : StateM (Machine × σ) α) :
    (perform effect step).runOn s =
      (.ok (step (s.machine, s.outside)).1,
        { s with
          machine := (step (s.machine, s.outside)).2.1
          outside := (step (s.machine, s.outside)).2.2
          effects := s.effects ++ [effect] }) := rfl

@[simp] theorem onMachine_apply (step : Machine → α × Machine) (w : Machine × σ) :
    onMachine step w = ((step w.1).1, (step w.1).2, w.2) := rfl

theorem runOn_bind (step : Boot σ α) (next : α → Boot σ β) :
    (step >>= next).runOn s =
      match step.runOn s with
      | (.ok a, t) => (next a).runOn t
      | (.error e, t) => (.error e, t) := by
  rcases h : step.runOn s with ⟨result, t⟩
  have : (step >>= next).runOn s = ExceptT.bindCont next (step.runOn s).1 (step.runOn s).2 := rfl
  rw [this, h]
  cases result <;> rfl

end Runs

end Boot

end BpfBoot
