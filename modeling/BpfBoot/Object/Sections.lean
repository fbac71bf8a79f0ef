import BpfBoot.Object.Words

namespace BpfBoot.Object

open Text (Octets)

inductive Part where
  | header | sectionEntry | sectionTable | nameTable
  deriving DecidableEq, Repr

def Part.text : Part → String
  | .header => "ELF header"
  | .sectionEntry => "section header entry"
  | .sectionTable => "section header table"
  | .nameTable => "section name table"

inductive Fault where
  | badMagic
  | unsupported (fileClass encoding : UInt8)
  | truncated (part : Part)
  /-- The end of a field would lie beyond the address space. A program with checked sums is stopped
  here; in one without them the field is not found in the file. -/
  | overflow
  deriving DecidableEq, Repr

def Fault.message : Fault → String
  | .badMagic => "not an ELF file"
  | .unsupported fileClass encoding =>
    "unsupported ELF class/encoding (" ++ toString fileClass.toNat ++ "/" ++
      toString encoding.toNat ++ ")"
  | .truncated part => "truncated " ++ part.text
  | .overflow => "truncated " ++ Part.sectionTable.text

def magic : Octets := [0x7F, 0x45, 0x4C, 0x46]

def entrySize : Nat := 64

def addressSpace : Nat := 1 <<< 64

def slice (bytes : Octets) (start stop : Nat) : Octets := (bytes.drop start).take (stop - start)

def field (part : Part) (bytes : Octets) (size start : Nat) : Except Fault Nat :=
  if addressSpace ≤ start + size then .error .overflow
  else if start + size ≤ bytes.length then .ok (word (slice bytes start (start + size)))
  else .error (.truncated part)

structure Section where
  name : Nat
  offset : Nat
  size : Nat
  deriving DecidableEq, Repr

def readSection (bytes : Octets) (table index : Nat) : Except Fault Section := do
  let base := index * entrySize + table
  if addressSpace ≤ base then throw (.truncated .sectionTable)
  return {
    name := ← field .sectionTable bytes 4 base
    offset := ← field .sectionTable bytes 8 (base + 0x18)
    size := ← field .sectionTable bytes 8 (base + 0x20) }

structure Header where
  table : Nat
  entrySize : Nat
  count : Nat
  nameIndex : Nat
  deriving DecidableEq, Repr

def readHeader (bytes : Octets) : Except Fault Header := do
  if bytes.length < entrySize then
    throw (if magic.isPrefixOf bytes || bytes.length < 4 then .truncated .header else .badMagic)
  if bytes.take 4 ≠ magic then throw .badMagic
  let fileClass := bytes.getD 4 0
  let encoding := bytes.getD 5 0
  if fileClass ≠ 2 ∨ encoding ≠ 1 then throw (.unsupported fileClass encoding)
  return {
    table := ← field .header bytes 8 0x28
    entrySize := ← field .header bytes 2 0x3A
    count := ← field .header bytes 2 0x3C
    nameIndex := ← field .header bytes 2 0x3E }

def nameTable (bytes : Octets) (h : Header) : Except Fault Octets := do
  let entry ← readSection bytes h.table h.nameIndex
  let stop := entry.offset + entry.size
  if addressSpace ≤ stop ∨ bytes.length < stop then throw (.truncated .nameTable)
  return slice bytes entry.offset stop

def nameAt (names : Octets) (start : Nat) : Except Fault Octets :=
  if start ≤ names.length then .ok ((names.drop start).takeWhile (· ≠ 0))
  else .error (.truncated .nameTable)

def rawNames (bytes : Octets) : Except Fault (List Octets) := do
  let h ← readHeader bytes
  if h.count = 0 then return []
  if h.entrySize ≠ entrySize then throw (.truncated .sectionEntry)
  let names ← nameTable bytes h
  (List.range h.count).mapM fun index => do
    nameAt names (← readSection bytes h.table index).name

def sectionNames (bytes : Octets) : Except Fault (List String) :=
  (rawNames bytes).map (·.map Text.decodeLossy)

def criticalName : String := "critical"

def isCritical (bytes : Octets) : Except Fault Bool :=
  (sectionNames bytes).map (·.contains criticalName)

end BpfBoot.Object
