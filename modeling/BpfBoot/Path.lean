import BpfBoot.Text.Utf8

namespace BpfBoot

open Text (Octets)

structure Path where
  bytes : Octets
  deriving DecidableEq, Repr

namespace Path

def slash : UInt8 := 0x2F

def ofString (s : String) : Path := ⟨Text.encode s⟩

def display (p : Path) : String := Text.decodeLossy p.bytes

def isAbsolute (p : Path) : Bool := p.bytes.head? = some slash

/-- One slash stands between the two, unless `p` is empty or ends in one; an absolute path
stands for itself wherever it is joined. -/
def join (p q : Path) : Path :=
  if q.isAbsolute then q
  else if p.bytes.isEmpty || p.bytes.getLast? = some slash then ⟨p.bytes ++ q.bytes⟩
  else ⟨p.bytes ++ slash :: q.bytes⟩

def belowRoot (p : Path) : Path := ⟨p.bytes.dropWhile (· == slash)⟩

abbrev Name := Octets

def dot : Name := [0x2E]

def dotDot : Name := [0x2E, 0x2E]

def namesFrom (name : Name) : Octets → List Name
  | [] => if name.isEmpty then [] else [name.reverse]
  | b :: rest =>
    if b = slash then
      if name.isEmpty then namesFrom [] rest else name.reverse :: namesFrom [] rest
    else namesFrom (b :: name) rest

def names (p : Path) : List Name := namesFrom [] p.bytes

/-- What tells two paths apart: whether they start at the root, and the names on the way. Repeated
slashes and a slash at the end do not count, and a dot counts only where a relative path starts with
it. -/
def components (p : Path) : Bool × List Name :=
  match p.isAbsolute, p.names with
  | false, first :: rest => (false, first :: rest.filter (· ≠ dot))
  | absolute, all => (absolute, all.filter (· ≠ dot))

def same (p q : Path) : Bool := p.components = q.components

def endsInSlash (p : Path) : Bool := p.bytes.getLast? = some slash

theorem join_of_isAbsolute {p q : Path} (h : q.isAbsolute = true) : p.join q = q := by
  simp [join, h]

end Path

end BpfBoot
