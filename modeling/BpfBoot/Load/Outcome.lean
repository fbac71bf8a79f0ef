import BpfBoot.Machine

namespace BpfBoot.Load

inductive Outcome where
  | loaded
  | failed (errno : Errno) (critical : Bool)
  deriving DecidableEq, Repr

/-- What loads an object of a location, and pins its programs and maps. It may change the machine
and a state of its own, and what it logs goes into the log of the run. -/
abbrev Loader (σ : Type) := Path → Location → StateM (Machine × σ) (Logged Outcome)

structure Report where
  attempted : Nat
  loaded : Nat
  failed : Nat
  /-- The number of the last critical failure. -/
  critical : Option Errno
  deriving DecidableEq, Repr

namespace Report

def empty : Report := ⟨0, 0, 0, none⟩

def isSuccess (r : Report) : Bool := r.critical.isNone

def add (r : Report) : Outcome → Report
  | .loaded => { r with attempted := r.attempted + 1, loaded := r.loaded + 1 }
  | .failed errno critical =>
    { r with
      attempted := r.attempted + 1
      failed := r.failed + 1
      critical := if critical then some errno else r.critical }

def text (r : Report) : String :=
  let critical := match r.critical with
    | none => "None"
    | some errno => "Some(" ++ toString errno.toInt ++ ")"
  "LocationReport \x7b attempted: " ++ toString r.attempted ++ ", loaded: " ++ toString r.loaded ++
    ", failed: " ++ toString r.failed ++ ", critical_errno: " ++ critical ++ " \x7d"

theorem attempted_add (r : Report) (o : Outcome) : (r.add o).attempted = r.attempted + 1 := by
  cases o <;> rfl

theorem balanced_add {r : Report} (h : r.attempted = r.loaded + r.failed) (o : Outcome) :
    (r.add o).attempted = (r.add o).loaded + (r.add o).failed := by
  cases o <;> simp only [add] <;> omega

end Report

end BpfBoot.Load
