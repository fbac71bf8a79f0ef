import BpfBoot.Log.Pattern.Class
import BpfBoot.Text.Alphanumeric

namespace BpfBoot.Pattern

structure Part where
  depth : Nat
  repeatable : Bool := true
  deriving DecidableEq, Repr

structure OpenGroup where
  outer : Modes
  done : List Nat
  parts : List Part
  deriving DecidableEq, Repr

namespace OpenGroup

def add (g : OpenGroup) (part : Part) : OpenGroup := { g with parts := part :: g.parts }

def last (g : OpenGroup) : Nat := together (g.parts.map Part.depth)

def depth (g : OpenGroup) : Nat := together (g.last :: g.done)

def alternative (g : OpenGroup) : OpenGroup := { g with done := g.last :: g.done, parts := [] }

def repeated (g : OpenGroup) : Option OpenGroup :=
  match g.parts with
  | part :: parts =>
    if part.repeatable then some { g with parts := ⟨part.depth + 1, true⟩ :: parts } else none
  | [] => none

end OpenGroup

inductive Opening where
  | group (flags : List Char)
  | namedGroup (name : List Char)
  | switch (flags : List Char)
  deriving DecidableEq, Repr

namespace Opening

def isName : List Char → Bool
  | [] => false
  | first :: rest =>
    (first = '_' || Text.isAlphabetic first) &&
      rest.all fun c => Text.isAlphanumeric c || ['_', '.', '[', ']'].contains c

def readName (cs : List Char) : Option (Opening × List Char) :=
  let (name, rest) := cs.span (· ≠ '>')
  match rest with
  | '>' :: rest => if isName name then some (.namedGroup name, rest) else none
  | _ => none

def readFlags (cs : List Char) : Option (Opening × List Char) :=
  let (flags, rest) := cs.span fun c => c ≠ ':' && c ≠ ')'
  if !Modes.areFlags flags then none
  else match rest with
    | ':' :: rest => some (.group flags, rest)
    | ')' :: rest => if flags.isEmpty then none else some (.switch flags, rest)
    | _ => none

def read : List Char → Option (Opening × List Char)
  | '?' :: 'P' :: '<' :: rest | '?' :: '<' :: rest => readName rest
  | '?' :: rest => readFlags rest
  | rest => some (.group [], rest)

end Opening

structure Reading where
  modes : Modes
  names : List (List Char)
  group : OpenGroup
  around : List OpenGroup
  deriving DecidableEq, Repr

namespace Reading

def start : Reading := ⟨{}, [], ⟨{}, [], []⟩, []⟩

def add (r : Reading) (depth : Nat) : Reading := { r with group := r.group.add ⟨depth, true⟩ }

def atom (r : Reading) (a : Atom) (rest : List Char) : Option (Reading × List Char) :=
  if a.isAllowed r.modes then some (r.add 0, rest) else none

def enter (r : Reading) (flags : List Char) : Reading :=
  { r with
    modes := r.modes.set flags
    group := ⟨r.modes, [], []⟩
    around := r.group :: r.around }

def openGroup (r : Reading) : Opening → Option Reading
  | .group flags => some (r.enter flags)
  | .namedGroup name =>
    if r.names.contains name then none else some ({ r with names := name :: r.names }.enter [])
  | .switch flags =>
    some { r with modes := r.modes.set flags, group := r.group.add ⟨0, false⟩ }

def leave (r : Reading) : Option Reading :=
  match r.around with
  | [] => none
  | outer :: around =>
    some { r with
      modes := r.group.outer
      group := outer.add ⟨r.group.depth + 1, true⟩
      around }

def next (r : Reading) (c : Char) (rest : List Char) : Option (Reading × List Char) :=
  match c with
  | '(' =>
    (Opening.read (r.modes.skip rest)).bind fun read =>
      (r.openGroup read.1).map fun r => (r, read.2)
  | ')' => r.leave.map fun r => (r, rest)
  | '|' => some ({ r with group := r.group.alternative }, rest)
  | '[' => (bracketed r.modes rest).map fun read => (r.add read.1, read.2)
  | '?' | '*' | '+' =>
    r.group.repeated.map fun group =>
      ({ r with group }, match rest with
        | '?' :: rest => rest
        | rest => rest)
  | '\x7b' => none
  | '\\' => (Atom.escaped r.modes rest).bind fun read => r.atom read.1 read.2
  | '.' => r.atom .anyCharacter rest
  | '^' | '$' => r.atom (.edge false) rest
  | c => r.atom (.literal c false) rest

/-- Reads to the end. Every round takes a character, so `fuel` suffices if it exceeds their
number. -/
def run : Nat → Reading → List Char → Option Reading
  | 0, _, _ => none
  | fuel + 1, r, cs =>
    match r.modes.skip cs with
    | [] => some r
    | c :: rest => (r.next c rest).bind fun read => run fuel read.1 read.2

end Reading

def maxDepth : Nat := 250

/-- How deep a pattern is nested, if it is well-formed: every group must end. -/
def depth? (cs : List Char) : Option Nat :=
  (Reading.start.run (cs.length + 1) cs).bind fun r =>
    if r.around.isEmpty then some r.group.depth else none

def isWellFormed (cs : List Char) : Bool := (depth? cs).any (· ≤ maxDepth)

example : depth? ['(', 'a', '|', 'b', '*', '?', ')', 'c'] = some 4 := by decide +kernel

example : depth? ['*'] = none := by decide +kernel

example : depth? ['a', ')'] = none := by decide +kernel

end BpfBoot.Pattern
