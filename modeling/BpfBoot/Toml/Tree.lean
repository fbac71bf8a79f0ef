import BpfBoot.Toml.Value

namespace BpfBoot.Toml

abbrev Change := Making → Entries → Except Fault Entries

/-- Follows a path from a table and changes the table it leads to. Tables that are missing on the
way are made as `fresh`. An array of tables is entered at its last table. -/
def changeAt (fresh : Making) (change : Change) : List String → Change
  | [], making, entries => change making entries
  | key :: path, _, entries =>
    match Table.get? key entries with
    | none => do
      let inner ← changeAt fresh change path fresh []
      return Table.put key (.table fresh inner) entries
    | some (.table making inner) =>
      if making = .closed ∨ (fresh = .dotted ∧ making = .opened) then .error (.notExtensible key)
      else do
        let inner ← changeAt fresh change path making inner
        return Table.put key (.table making inner) entries
    | some (.tables items) =>
      match items.getLast? with
      | none => .error (.notExtensible key)
      | some last => do
        let last ← changeAt fresh change path .opened last
        return Table.put key (.tables (items.dropLast ++ [last])) entries
    | some _ => .error (.notExtensible key)

def setNew (key : String) (value : Value) : Change := fun _ entries =>
  match Table.get? key entries with
  | some _ => .error (.duplicate key)
  | none => .ok (Table.put key value entries)

/-- Sets the key at the end of a dotted key. All tables that its dots lead through must be open to
dotted keys, and the last of them must have come from one. -/
def assign (path : List String) (key : String) (value : Value) : Change :=
  if path.isEmpty then setNew key value
  else changeAt .dotted (fun making entries =>
    if making = .dotted then setNew key value making entries else .error (.duplicate key)) path

def openTable (path : List String) (key : String) : Change :=
  changeAt .passed (fun _ entries =>
    match Table.get? key entries with
    | none => .ok (Table.put key (.table .opened []) entries)
    | some (.table .passed inner) => .ok (Table.put key (.table .opened inner) entries)
    | some _ => .error (.duplicate key)) path

def addTable (path : List String) (key : String) : Change :=
  changeAt .passed (fun _ entries =>
    match Table.get? key entries with
    | none => .ok (Table.put key (.tables [[]]) entries)
    | some (.tables items) => .ok (Table.put key (.tables (items ++ [[]])) entries)
    | some _ => .error (.duplicate key)) path

def inlineEntries (assigned : List (List String × String × Value)) : Except Fault Entries :=
  assigned.foldlM (fun entries a => assign a.1 a.2.1 a.2.2 .closed entries) []

end BpfBoot.Toml
