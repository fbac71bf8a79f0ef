import BpfBoot.Log.Pattern.Atom

namespace BpfBoot.Pattern

/-- How deep parts that stand beside each other are nested; they count as a part around them
unless there is only one. -/
def together : List Nat → Nat
  | [] => 0
  | [depth] => depth
  | depths => depths.foldl max 0 + 1

def asciiNames : List String :=
  ["alnum", "alpha", "ascii", "blank", "cntrl", "digit", "graph", "lower", "print", "punct",
    "space", "upper", "word", "xdigit"]

def named? : List Char → Option (Bool × List Char)
  | ':' :: rest =>
    let (negated, rest) := match rest with
      | '^' :: rest => (true, rest)
      | rest => (false, rest)
    let (name, rest) := rest.span (· ≠ ':')
    match rest with
    | ':' :: ']' :: rest =>
      if asciiNames.contains (String.ofList name) then some (negated, rest) else none
    | _ => none
  | _ => none

def Modes.takesNamed (m : Modes) (negated : Bool) : Bool :=
  if m.unicode then !m.ignoreCase else !negated

structure OpenClass where
  before : Option Nat
  parts : List Nat
  deriving DecidableEq, Repr

namespace OpenClass

def depth (o : OpenClass) : Nat :=
  match o.before with
  | none => together o.parts
  | some before => max before (together o.parts) + 1

def add (o : OpenClass) (part : Nat) : OpenClass := { o with parts := part :: o.parts }

def cut (o : OpenClass) : OpenClass := ⟨some o.depth, []⟩

def leadingSigns (m : Modes) : Nat → OpenClass → List Char → OpenClass × List Char
  | 0, o, cs => (o, cs)
  | fuel + 1, o, cs =>
    match m.skip cs with
    | '-' :: rest => leadingSigns m fuel (o.add 0) rest
    | cs => (o, cs)

/-- A class after its opening bracket up to its first proper part. A closing bracket that would
leave the class empty is a member. Only where characters are those of all scripts a class may be
negated. -/
def start (m : Modes) (cs : List Char) : Option (OpenClass × List Char) :=
  let (negated, cs) := match m.skip cs with
    | '^' :: rest => (true, rest)
    | cs => (false, cs)
  let (o, cs) := leadingSigns m (cs.length + 1) ⟨none, []⟩ cs
  let (o, cs) := match o.parts, cs with
    | [], ']' :: rest => (o.add 0, rest)
    | _, cs => (o, cs)
  if negated && !m.unicode then none
  else if !o.parts.isEmpty && !(Atom.literal '-' false).isMember m then none
  else some (o, cs)

end OpenClass

def classAtom (m : Modes) : List Char → Option (Atom × List Char)
  | [] => none
  | '\\' :: rest => (Atom.escaped m rest).filter (·.1.isMember m)
  | c :: rest => some (Atom.literal c false, rest) |>.filter (·.1.isMember m)

def beyondSign (m : Modes) (cs : List Char) : List Char :=
  if m.verbose then
    match cs.dropWhile Text.isBlank with
    | '#' :: rest => rest.dropWhile Text.isBlank
    | cs => cs
  else cs

def classRange (m : Modes) (cs : List Char) : Option (List Char) := do
  let (first, rest) ← classAtom m cs
  match m.skip rest with
  | '-' :: more =>
    match beyondSign m more with
    | ']' :: _ | '-' :: _ => some ('-' :: more)
    | _ =>
      match first, ← classAtom m (m.skip more) with
      | .literal low _, (.literal high _, rest) => if low ≤ high then some rest else none
      | _, _ => none
  | rest => some rest

/-- Reads a class on from where it stands, with the classes around it. Of a class that is
well-formed only its nesting is kept: gives how deep the outermost one is nested, and the text after
it. Every round takes a character, so `fuel` suffices if it exceeds their number. -/
def readClass (m : Modes) :
    Nat → OpenClass → List OpenClass → List Char → Option (Nat × List Char)
  | 0, _, _, _ => none
  | fuel + 1, o, around, cs =>
    match m.skip cs with
    | '[' :: rest =>
      match named? rest with
      | some (negated, rest) =>
        if m.takesNamed negated then readClass m fuel (o.add 0) around rest else none
      | none => (OpenClass.start m rest).bind fun s => readClass m fuel s.1 (o :: around) s.2
    | ']' :: rest =>
      match around with
      | [] => some (o.depth + 1, rest)
      | outer :: around => readClass m fuel (outer.add (o.depth + 1)) around rest
    | '&' :: '&' :: rest | '-' :: '-' :: rest | '~' :: '~' :: rest =>
      readClass m fuel o.cut around rest
    | cs => (classRange m cs).bind (readClass m fuel (o.add 0) around)

def bracketed (m : Modes) (cs : List Char) : Option (Nat × List Char) :=
  (OpenClass.start m cs).bind fun s => readClass m (s.2.length + 1) s.1 [] s.2

end BpfBoot.Pattern
