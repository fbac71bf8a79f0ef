import BpfBoot.Files.Access
import BpfBoot.Text.Lines

namespace BpfBoot

open Text (Octets)

inductive Runner where
  | processor
  | interpreter (path : Path)
  deriving DecidableEq, Repr

namespace Runner

def isCode (content : Octets) : Bool :=
  [0x7F, 0x45, 0x4C, 0x46].isPrefixOf content &&
    (content.drop 16).take 2 ∈ ([[2, 0], [3, 0]] : List Octets)

def interpreterOf (content : Octets) : Path :=
  let isGap (b : UInt8) : Bool := b = 0x20 || b = 0x09
  ⟨(content.dropWhile isGap).takeWhile fun b => !isGap b && b ≠ 0x0A && b ≠ 0⟩

def ofContent? (content : Octets) : Option Runner :=
  match content with
  | 0x23 :: 0x21 :: rest =>
    if (interpreterOf rest).bytes.isEmpty then none else some (.interpreter (interpreterOf rest))
  | _ => if isCode content then some .processor else none

def shellPath : Path := .ofString "/bin/sh"

def shell : Runner := .interpreter shellPath

end Runner

abbrev SearchPath := List Path

namespace SearchPath

def standard : SearchPath := [.ofString "/bin", .ofString "/usr/bin"]

def ofOctets (bytes : Octets) : SearchPath := (Text.splitAll 0x3A bytes).map Path.mk

def candidates (search : SearchPath) (name : Path) : List Path :=
  search.map fun dir =>
    if dir.bytes.isEmpty then name else ⟨dir.bytes ++ Path.slash :: name.bytes⟩

end SearchPath

namespace FileSystem

/-- What a file that can be executed holds, and how its run ends. A file that is `held` open to be
written cannot be run. -/
def program (fs : FileSystem) (held : List Place) (p : Path) :
    Except IoFault (Octets × Termination) := do
  let place ← fs.resolve p
  match fs.node? place with
  | some (.file content (some ending)) =>
    if held.contains place then throw (.os .textBusy) else return (content, ending)
  | _ => throw (.os .denied)

/-- How a run ends that starts from the file at a path. What does not say what runs it has the
given runner, if there is one. An interpreter must be a program too. -/
def start (fs : FileSystem) (held : List Place) (otherwise : Option Runner) (p : Path) :
    Except IoFault Termination := do
  let (content, ending) ← fs.program held p
  match (Runner.ofContent? content).or otherwise with
  | none => throw (.os .badFormat)
  | some .processor => return ending
  | some (.interpreter path) =>
    let _ ← fs.program held path
    return ending

/-- The first path from which something starts. Paths that lead nowhere are passed over, and so
are those that may not be run; of the latter it is told in the end that there was one. -/
def startFirst (start : Path → Except IoFault Termination) (denied : Bool) :
    List Path → Except IoFault (Path × Termination)
  | [] => .error (.os (if denied then .denied else .noEntry))
  | p :: rest =>
    match start p with
    | .ok ending => .ok (p, ending)
    | .error fault =>
      if fault = .os .denied then startFirst start true rest
      else if fault = .os .noEntry || fault = .os .notDirectory then startFirst start denied rest
      else .error fault

def execute (fs : FileSystem) (held : List Place) (otherwise : Option Runner)
    (search : SearchPath) (name : Path) : Except IoFault (Path × Termination) :=
  if name.bytes.contains 0 then .error .nulInArgument
  else if name.bytes.contains Path.slash then
    (fs.start held otherwise name).map fun ending => (name, ending)
  else if name.bytes.isEmpty then .error (.os .noEntry)
  else if maxName < name.bytes.length then .error (.os .nameTooLong)
  else startFirst (fs.start held otherwise) false (search.candidates name)

end FileSystem

end BpfBoot
