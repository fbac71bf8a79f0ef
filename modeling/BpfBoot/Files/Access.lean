import BpfBoot.Files.Walk

namespace BpfBoot

open Text (Octets)

namespace FileSystem

def look (fs : FileSystem) (p : Path) : Except IoFault Node := do
  let place ← fs.resolve p
  match fs.node? place with
  | some node => return node
  | none => throw (.os .noEntry)

/-- Whether there is something at a path. A path that leads nowhere is no fault here, one that
cannot be followed to its end is. -/
def holds (fs : FileSystem) (p : Path) : Except IoFault Bool :=
  match fs.look p with
  | .ok _ => .ok true
  | .error fault => if fault = .os .noEntry then .ok false else .error fault

/-- The content of a file. A device that never ends has none that memory could take. -/
def read (fs : FileSystem) (p : Path) : Except IoFault Octets := do
  match ← fs.look p with
  | .file content _ => return content
  | .device .null => return []
  | .device .full => throw .outOfMemory
  | _ => throw (.os .isDirectory)

def readText (fs : FileSystem) (p : Path) : Except IoFault String := do
  match Text.decode? (← fs.read p) with
  | some text => return text
  | none => throw .notText

def list (fs : FileSystem) (p : Path) : Except IoFault (List Path.Name) := do
  let place ← fs.resolve p
  match fs.node? place with
  | some (.directory _) => return fs.names place
  | _ => throw (.os .notDirectory)

def accepted (limit : Option Nat) (size : Nat) : Except Errno Nat :=
  match limit with
  | none => .ok size
  | some most =>
    if size = 0 then .ok 0
    else if most = 0 then .error .fileTooLarge
    else .ok (min size most)

/-- One write over the start of an existing file, which is neither created nor cut. Gives the
number of octets written. -/
def overwrite (limit : Option Nat) (p : Path) (data : Octets) (fs : FileSystem) :
    Except IoFault Nat × FileSystem :=
  match fs.resolve p with
  | .error fault => (.error fault, fs)
  | .ok place =>
    match fs.node? place with
    | some (.file content program) =>
      match accepted limit data.length with
      | .error code => (.error (.os code), fs)
      | .ok count =>
        (.ok count, fs.put place (.file (data.take count ++ content.drop count) program))
    | some (.device .null) => (.ok data.length, fs)
    | some (.device .full) => (if data.isEmpty then .ok 0 else .error (.os .noSpace), fs)
    | _ => (.error (.os .isDirectory), fs)

def openAppend (fs : FileSystem) (p : Path) : Except IoFault Place := do
  let place ← fs.resolve p
  match fs.node? place with
  | some (.file ..) | some (.device _) => return place
  | _ => throw (.os .isDirectory)

def append (place : Place) (data : Octets) (fs : FileSystem) : Except IoFault Unit × FileSystem :=
  match fs.node? place with
  | some (.file content program) => (.ok (), fs.put place (.file (content ++ data) program))
  | some (.device .full) => (if data.isEmpty then .ok () else .error (.os .noSpace), fs)
  | _ => (.ok (), fs)

/-- Makes one directory. Whatever stands at the path already, a dangling link too, is in the way. -/
def makeDirectory (umask mode : Mode) (p : Path) (fs : FileSystem) :
    Except IoFault Unit × FileSystem :=
  match fs.resolveParent p with
  | .error fault => (.error fault, fs)
  | .ok (_, none) => (.error (.os .alreadyExists), fs)
  | .ok (dir, some name) =>
    if maxName < name.length then (.error (.os .nameTooLong), fs)
    else match fs.node? (name :: dir) with
      | some _ => (.error (.os .alreadyExists), fs)
      | none => (.ok (), fs.put (name :: dir) (.directory (mode &&& ~~~umask)))

end FileSystem

end BpfBoot
