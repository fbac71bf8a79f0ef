import BpfBoot.Object.Sections

namespace BpfBoot.Object

open Text (Octets)

def nameTableName : String := ".shstrtab"

def nameOctets (name : String) : Octets := Text.encode name ++ [0]

def nameStarts : Nat → List String → List Nat
  | _, [] => []
  | start, name :: rest => start :: nameStarts (start + (nameOctets name).length) rest

def nameTableOctets (names : List String) : Octets := 0 :: names.flatMap nameOctets

def sectionOctets (name kind offset size : Nat) : Octets :=
  wordOctets 4 name ++ wordOctets 4 kind ++ List.replicate 16 0 ++ wordOctets 8 offset ++
    wordOctets 8 size ++ List.replicate 24 0

def headerOctets (table count : Nat) : Octets :=
  magic ++ [2, 1, 1] ++ List.replicate 9 0 ++ wordOctets 2 1 ++ wordOctets 2 247 ++
    List.replicate 20 0 ++ wordOctets 8 table ++ List.replicate 4 0 ++ wordOctets 2 entrySize ++
    List.replicate 4 0 ++ wordOctets 2 entrySize ++ wordOctets 2 count ++ wordOctets 2 (count - 1)

/-- An object that holds nothing but named sections. The first one has no name and the last one
holds the names. -/
def build (sections : List String) : Octets :=
  let names := nameTableOctets (sections ++ [nameTableName])
  let starts := nameStarts 1 (sections ++ [nameTableName])
  let padding := (8 - (entrySize + names.length) % 8) % 8
  let table := entrySize + names.length + padding
  headerOctets table (sections.length + 2) ++ names ++ List.replicate padding 0 ++
    sectionOctets 0 0 0 0 ++
    (starts.take sections.length).flatMap (fun start => sectionOctets start 0 0 0) ++
    (starts.drop sections.length).flatMap fun start =>
      sectionOctets start 3 entrySize names.length

structure Write where
  place : Nat
  octets : Octets

def Write.stop (w : Write) : Nat := w.place + w.octets.length

/-- Octets are put over those that stand there; a write past the end is refused. -/
def Write.onto (w : Write) (out : Octets) : Option Octets :=
  if w.stop ≤ out.length then some (out.take w.place ++ w.octets ++ out.drop w.stop) else none

def writeAll (writes : List Write) (out : Octets) : Option Octets :=
  writes.foldlM (fun out w => w.onto out) out

def zeros (count : Nat) : Octets := List.replicate count 0

def addName (names : Octets × List Nat) (name : String) : Octets × List Nat :=
  (names.1 ++ Text.encode name ++ [0], names.2 ++ [names.1.length])

def headerWrites (table count : Nat) : List Write :=
  [⟨0, magic⟩, ⟨4, [2]⟩, ⟨5, [1]⟩, ⟨6, [1]⟩, ⟨0x10, wordOctets 2 1⟩, ⟨0x12, wordOctets 2 247⟩,
    ⟨0x28, wordOctets 8 table⟩, ⟨0x34, wordOctets 2 entrySize⟩, ⟨0x3A, wordOctets 2 entrySize⟩,
    ⟨0x3C, wordOctets 2 count⟩, ⟨0x3E, wordOctets 2 (count - 1)⟩]

def entryWrites (place start size : Nat) (last : Bool) : List Write :=
  ⟨place, wordOctets 4 start⟩ :: if last then
    [⟨place + 4, wordOctets 4 3⟩, ⟨place + 0x18, wordOctets 8 entrySize⟩,
      ⟨place + 0x20, wordOctets 8 size⟩] else []

def entriesWrites (table size last : Nat) : Nat → List Nat → List Write
  | _, [] => []
  | index, start :: starts =>
      entryWrites (table + (index + 1) * entrySize) start size (index == last) ++
        entriesWrites table size last (index + 1) starts

/-- What `build` gives, made by one write after the other into octets that are zero at first. -/
def assemble (sections : List String) : Option Octets :=
  let names := (sections ++ [nameTableName]).foldl addName ([0], [])
  let table := (entrySize + names.1.length + 7) / 8 * 8
  let count := sections.length + 2
  writeAll
    (headerWrites table count ++ ⟨entrySize, names.1⟩ ::
      entriesWrites table names.1.length (names.2.length - 1) 0 names.2)
    (zeros (table + count * entrySize))

end BpfBoot.Object
