import BpfBoot.Table
import BpfBoot.Text.Blank
import BpfBoot.Text.Lines

namespace BpfBoot

structure Properties where
  entries : List (String × String)
  deriving DecidableEq, Repr

namespace Properties

def empty : Properties := ⟨[]⟩

def get? (p : Properties) (key : String) : Option String := Table.get? key p.entries

def put (p : Properties) (key value : String) : Properties := ⟨Table.put key value p.entries⟩

/-- Blank lines, lines that begin with `#` and lines without an equals sign assign nothing. -/
def assignment? (line : List Char) : Option (String × String) :=
  match Text.trim line with
  | [] => none
  | '#' :: _ => none
  | cs => (Text.splitOnce '=' cs).map fun cut =>
    (String.ofList (Text.trim cut.1), String.ofList (Text.trim cut.2))

def assignments (text : String) : List (String × String) :=
  (Text.lines text.toList).filterMap assignment?

def ofAssignments (assigned : List (String × String)) : Properties :=
  assigned.foldl (fun p a => p.put a.1 a.2) empty

def ofText (text : String) : Properties := ofAssignments (assignments text)

@[simp] theorem get?_put (p : Properties) (key value k : String) :
    (p.put key value).get? k = if k = key then some value else p.get? k :=
  Table.get?_put key k value p.entries

end Properties

end BpfBoot
