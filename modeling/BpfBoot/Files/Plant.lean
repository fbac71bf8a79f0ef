import BpfBoot.Files.Walk

namespace BpfBoot.FileSystem

def ensure (fs : FileSystem) (dir : Place) : List Path.Name → FileSystem × Place
  | [] => (fs, dir)
  | name :: rest =>
    if name = Path.dot then fs.ensure dir rest
    else if name = Path.dotDot then fs.ensure dir.tail rest
    else match fs.node? (name :: dir) with
      | none => (fs.put (name :: dir) (.directory 0o755)).ensure (name :: dir) rest
      | some _ =>
        match fs.walk maxLinks dir [name] with
        | .ok place => fs.ensure place rest
        | .error _ => (fs, dir)

/-- Puts a node at a path. A regular file put where a link leads to something takes the place of
that. -/
def plant (fs : FileSystem) (p : Path) (node : Node) : FileSystem :=
  let (fs, dir) := fs.ensure (startOf p fs.workDir) p.names.dropLast
  match p.names.getLast?, node with
  | none, _ => fs
  | some name, .directory _ => (fs.ensure dir [name]).1
  | some name, .file .. =>
    match fs.walk maxLinks dir [name] with
    | .ok place => fs.put place node
    | .error _ => fs.put (name :: dir) node
  | some name, _ => fs.put (name :: dir) node

def placeAt? (fs : FileSystem) (p : Path) : Option Place :=
  match p.names.getLast? with
  | none => some (startOf p fs.workDir)
  | some name =>
    match fs.walk maxLinks (startOf p fs.workDir) p.names.dropLast with
    | .error _ => none
    | .ok dir =>
      let place :=
        if name = Path.dot then dir
        else if name = Path.dotDot then dir.tail
        else name :: dir
      (fs.node? place).map fun _ => place

def uproot (fs : FileSystem) (p : Path) : FileSystem :=
  match fs.placeAt? p with
  | none => fs
  | some place => fs.remove place

def below (fs : FileSystem) (p : Path) : List (Path × Node) :=
  match fs.placeAt? p with
  | none => []
  | some place =>
    let inner := fs.nodes.filter fun entry => place.isSuffixOf entry.1 && entry.1 != place
    ((fs.node? place).toList.map fun node => (p, node)) ++ inner.map fun entry =>
      (((entry.1.take (entry.1.length - place.length)).reverse.foldl
        (fun path name => path.join ⟨name⟩) p), entry.2)

end BpfBoot.FileSystem
