import BpfBoot.Toml.Moment
import BpfBoot.Toml.Number
import BpfBoot.Toml.Quoted
import BpfBoot.Toml.Tree

namespace BpfBoot.Toml

def skipBlanks (cs : List Char) : List Char := cs.dropWhile fun c => c = ' ' || c = '\t'

def skipComment : List Char → List Char
  | '#' :: rest => rest.dropWhile isPlain
  | cs => cs

def skipGaps : Bool → List Char → List Char
  | _, [] => []
  | _, '\n' :: rest => skipGaps false rest
  | _, '\r' :: '\n' :: rest => skipGaps false rest
  | true, c :: rest => if isPlain c then skipGaps true rest else c :: rest
  | false, c :: rest =>
    if c = ' ' || c = '\t' then skipGaps false rest
    else if c = '#' then skipGaps true rest
    else c :: rest

def endLine (cs : List Char) : Except Fault (List Char) :=
  match skipComment (skipBlanks cs) with
  | [] => .ok []
  | '\n' :: rest => .ok rest
  | '\r' :: '\n' :: rest => .ok rest
  | _ => .error (.expected "the end of the line")

def isBare (c : Char) : Bool := c.isAlphanum || c = '_' || c = '-'

def simpleKey (cs : List Char) : Except Fault (String × List Char) :=
  match cs with
  | '"' :: rest => (basic rest).map fun r => (String.ofList r.1, r.2)
  | '\'' :: rest => (literal rest).map fun r => (String.ofList r.1, r.2)
  | _ =>
    if (cs.takeWhile isBare).isEmpty then .error (.expected "a key")
    else .ok (String.ofList (cs.takeWhile isBare), cs.dropWhile isBare)

def maxDepth : Nat := 80

def keyParts : Nat → List Char → Except Fault (List String × List Char)
  | more, cs => do
    let (part, rest) ← simpleKey (skipBlanks cs)
    match skipBlanks rest, more with
    | '.' :: rest, more + 1 => do
      let (parts, rest) ← keyParts more rest
      return (part :: parts, rest)
    | '.' :: _, 0 => throw .depth
    | rest, _ => return ([part], rest)

def key (cs : List Char) : Except Fault ((List String × String) × List Char) := do
  let (parts, rest) ← keyParts (maxDepth - 2) cs
  match parts.getLast? with
  | none => throw (.expected "a key")
  | some last => return ((parts.dropLast, last), rest)

abbrev ReadValue := List Char → Except Fault (Value × List Char)

/-- The items of an array after its opening bracket or a comma. No more than `fuel` are read; each
takes a character of the text. -/
def arrayItems (readValue : ReadValue) : Nat → List Char → Except Fault (List Value × List Char)
  | 0, _ => .error (.unclosed "array")
  | fuel + 1, cs =>
    match skipGaps false cs with
    | ']' :: rest => .ok ([], rest)
    | cs => do
      let (value, rest) ← readValue cs
      match skipGaps false rest with
      | ']' :: rest => return ([value], rest)
      | ',' :: rest => do
        let (values, rest) ← arrayItems readValue fuel rest
        return (value :: values, rest)
      | _ => throw (.unclosed "array")

def inlineItems (readValue : ReadValue) :
    Nat → List Char → Except Fault (List (List String × String × Value) × List Char)
  | 0, _ => .error (.unclosed "inline table")
  | fuel + 1, cs => do
    let ((path, name), rest) ← key cs
    match rest with
    | '=' :: rest => do
      let (value, rest) ← readValue (skipBlanks rest)
      match skipBlanks rest with
      | '}' :: rest => return ([(path, name, value)], rest)
      | ',' :: rest => do
        let (items, rest) ← inlineItems readValue fuel rest
        return ((path, name, value) :: items, rest)
      | _ => throw (.unclosed "inline table")
    | _ => throw (.expected "an equals sign")

def scalar (cs : List Char) : Except Fault (Value × List Char) :=
  match string? cs with
  | some read => read.map fun r => (.string r.1, r.2)
  | none =>
    match cs with
    | 't' :: 'r' :: 'u' :: 'e' :: rest => .ok (.boolean true, rest)
    | 'f' :: 'a' :: 'l' :: 's' :: 'e' :: rest => .ok (.boolean false, rest)
    | _ =>
      match moment? cs with
      | some read => .ok read
      | none => number cs

def value : Nat → ReadValue
  | 0, cs =>
    match cs with
    | '[' :: _ => .error .depth
    | '{' :: _ => .error .depth
    | _ => scalar cs
  | depth + 1, cs =>
    match cs with
    | '[' :: rest => do
      let (items, rest) ← arrayItems (value depth) (rest.length + 1) rest
      return (.array items, rest)
    | '{' :: rest =>
      match skipBlanks rest with
      | '}' :: rest => .ok (.table .closed [], rest)
      | _ => do
        let (items, rest) ← inlineItems (value depth) (rest.length + 1) rest
        return (.table .closed (← inlineEntries items), rest)
    | _ => scalar cs

structure Draft where
  entries : Entries
  header : List String

def Draft.assign (d : Draft) (path : List String) (name : String) (value : Value) :
    Except Fault Draft := do
  let entries ← changeAt .passed (Toml.assign path name value) d.header .opened d.entries
  return { d with entries }

def Draft.openTable (d : Draft) (path : List String) (name : String) : Except Fault Draft := do
  return ⟨← Toml.openTable path name .opened d.entries, path ++ [name]⟩

def Draft.addTable (d : Draft) (path : List String) (name : String) : Except Fault Draft := do
  return ⟨← Toml.addTable path name .opened d.entries, path ++ [name]⟩

def statement (d : Draft) (cs : List Char) : Except Fault (Draft × List Char) :=
  match cs with
  | '[' :: '[' :: rest => do
    let ((path, name), rest) ← key rest
    match rest with
    | ']' :: ']' :: rest => return (← d.addTable path name, ← endLine rest)
    | _ => throw (.expected "two closing brackets")
  | '[' :: rest => do
    let ((path, name), rest) ← key rest
    match rest with
    | ']' :: rest => return (← d.openTable path name, ← endLine rest)
    | _ => throw (.expected "a closing bracket")
  | '\n' :: rest => .ok (d, rest)
  | '\r' :: _ => (endLine cs).map (d, ·)
  | '#' :: _ => (endLine cs).map (d, ·)
  | _ => do
    let ((path, name), rest) ← key cs
    match rest with
    | '=' :: rest => do
      let (value, rest) ← value (maxDepth - 1) (skipBlanks rest)
      let rest ← endLine rest
      return (← d.assign path name value, rest)
    | _ => throw (.expected "an equals sign")

def statements : Nat → Draft → List Char → Except Fault Draft
  | 0, _, _ => .error (.unclosed "document")
  | fuel + 1, d, cs =>
    match skipBlanks cs with
    | [] => .ok d
    | cs => do
      let (d, rest) ← statement d cs
      statements fuel d rest

def skipMark : List Char → List Char
  | '\uFEFF' :: rest => rest
  | cs => cs

def document (text : String) : Except Fault Entries := do
  let cs := skipMark text.toList
  return (← statements (cs.length + 1) ⟨[], []⟩ cs).entries

end BpfBoot.Toml
