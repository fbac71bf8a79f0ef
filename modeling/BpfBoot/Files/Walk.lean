import BpfBoot.Files.Node

namespace BpfBoot

namespace FileSystem

def maxLinks : Nat := 40

def maxName : Nat := 255

def maxPath : Nat := 4095

/-- The names to walk; a slash at the end asks for a directory, as a dot there does. -/
def steps (p : Path) : List Path.Name := if p.endsInSlash then p.names ++ [Path.dot] else p.names

def startOf (p : Path) (dir : Place) : Place := if p.isAbsolute then [] else dir

/-- Walks until the names are used up or a link is met; `follow` goes on from there, given the
directory the link stands in, its target and the names that are left. -/
def walkWith (follow : Place → Path → List Path.Name → Except Errno Place) (fs : FileSystem) :
    Place → List Path.Name → Except Errno Place
  | place, [] => .ok place
  | place, name :: rest =>
    match fs.node? place with
    | some (.directory _) =>
      if name = Path.dot then walkWith follow fs place rest
      else if name = Path.dotDot then walkWith follow fs place.tail rest
      else if maxName < name.length then .error .nameTooLong
      else match fs.node? (name :: place) with
        | none => .error .noEntry
        | some (.link target) => follow place target rest
        | some _ => walkWith follow fs (name :: place) rest
    | _ => .error .notDirectory

def walk (fs : FileSystem) : Nat → Place → List Path.Name → Except Errno Place
  | 0 => walkWith (fun _ _ _ => .error .linkLoop) fs
  | budget + 1 => walkWith (fun dir target rest =>
      if target.bytes.isEmpty then .error .noEntry
      else walk fs budget (startOf target dir) (steps target ++ rest)) fs

def checkPath (p : Path) : Except IoFault Unit :=
  if p.bytes.contains 0 then .error .nulInPath
  else if p.bytes.isEmpty then .error (.os .noEntry)
  else if maxPath < p.bytes.length then .error (.os .nameTooLong)
  else .ok ()

def resolve (fs : FileSystem) (p : Path) : Except IoFault Place := do
  checkPath p
  (fs.walk maxLinks (startOf p fs.workDir) (steps p)).mapError .os

/-- The directory in which the last name of a path stands, and that name; `none` if the path has
no name to create, being the root or ending in a dot or two. -/
def resolveParent (fs : FileSystem) (p : Path) : Except IoFault (Place × Option Path.Name) := do
  checkPath p
  match p.names.getLast? with
  | none => return (startOf p fs.workDir, none)
  | some last =>
    let dir ← (fs.walk maxLinks (startOf p fs.workDir) p.names.dropLast).mapError .os
    match fs.node? dir with
    | some (.directory _) =>
      return (dir, if last = Path.dot ∨ last = Path.dotDot then none else some last)
    | _ => throw (.os .notDirectory)

end FileSystem

end BpfBoot
