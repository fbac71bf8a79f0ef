import Mathlib
import BpfBoot.Object.Builder
import BpfBoot.Proofs.Encoding
import BpfBoot.Proofs.SectionNames

namespace BpfBoot.Object

open Text (Octets encode decodeLossy)

section Words

theorem word_wordOctets_of_lt {size n : Nat} (h : n < Nat.pow 256 size) :
    word (wordOctets size n) = n := by
  rw [word_wordOctets, Nat.mod_eq_of_lt h]

theorem drop_wordOctets {size count : Nat} (h : size ≤ count) (n : Nat) :
    (wordOctets size n).drop count = [] :=
  List.drop_eq_nil_of_le (by rwa [length_wordOctets])

theorem slice_append_right {front : Octets} {start : Nat} (h : front.length = start)
    (bytes : Octets) (inner stop : Nat) :
    slice (front ++ bytes) (start + inner) (start + stop) = slice bytes inner stop := by
  subst h
  rw [slice, slice, List.drop_length_add_append, Nat.add_sub_add_left]

theorem length_headerOctets (table count : Nat) :
    (headerOctets table count).length = entrySize := by
  simp [headerOctets, magic, entrySize]

theorem length_sectionOctets (name kind offset size : Nat) :
    (sectionOctets name kind offset size).length = entrySize := by
  simp [sectionOctets, entrySize]

theorem headerOf_headerOctets {table count : Nat} (htable : table < Nat.pow 256 8)
    (hcount : count < Nat.pow 256 2) (rest : Octets) :
    headerOf (headerOctets table count ++ rest) = ⟨table, entrySize, count, count - 1⟩ := by
  have hlast : count - 1 < Nat.pow 256 2 := Nat.lt_of_le_of_lt (Nat.sub_le count 1) hcount
  have hsize : entrySize < Nat.pow 256 2 := by decide
  simp only [headerOf, headerOctets, slice, magic, List.append_assoc, Header.mk.injEq]
  simp [List.drop_append, drop_wordOctets, word_wordOctets_of_lt htable,
    word_wordOctets_of_lt hcount, word_wordOctets_of_lt hlast, word_wordOctets_of_lt hsize]

theorem hasHeader_headerOctets (table count : Nat) (rest : Octets) :
    HasHeader (headerOctets table count ++ rest) := by
  refine ⟨?_, rfl, rfl, rfl⟩
  rw [List.length_append, length_headerOctets]
  exact Nat.le_add_right _ _

theorem sectionAt_sectionOctets {name offset size : Nat} (hname : name < Nat.pow 256 4)
    (hoffset : offset < Nat.pow 256 8) (hsize : size < Nat.pow 256 8) (kind : Nat)
    {front : Octets} {start : Nat} (hstart : front.length = start) (back : Octets) :
    sectionAt (front ++ (sectionOctets name kind offset size ++ back)) start =
      ⟨name, offset, size⟩ := by
  have hslice (inner stop : Nat) := slice_append_right hstart
    (sectionOctets name kind offset size ++ back) inner stop
  have hfirst := hslice 0 4
  rw [Nat.add_zero] at hfirst
  simp only [sectionAt, Nat.add_assoc, hslice, hfirst, Section.mk.injEq]
  simp only [sectionOctets, slice, List.append_assoc]
  simp [List.drop_append, drop_wordOctets, word_wordOctets_of_lt hname,
    word_wordOctets_of_lt hoffset, word_wordOctets_of_lt hsize]

theorem flatten_eq_append {chunks : List Octets} {size : Nat}
    (h : ∀ chunk ∈ chunks, chunk.length = size) {index : Nat} {chunk : Octets}
    (hindex : chunks[index]? = some chunk) :
    ∃ before after, chunks.flatten = before ++ (chunk ++ after) ∧
      before.length = index * size := by
  induction chunks generalizing index with
  | nil => cases hindex
  | cons first chunks ih =>
      obtain ⟨hfirst, hrest⟩ := List.forall_mem_cons.1 h
      cases index with
      | zero =>
          cases hindex
          exact ⟨[], chunks.flatten, rfl, (Nat.zero_mul size).symm⟩
      | succ index =>
          obtain ⟨before, after, hflatten, hlength⟩ := ih hrest hindex
          refine ⟨first ++ before, after, ?_, ?_⟩
          · rw [List.flatten_cons, hflatten, List.append_assoc]
          · rw [List.length_append, hfirst, hlength, Nat.succ_mul, Nat.add_comm]

end Words

section Names

theorem length_nameStarts (start : Nat) (names : List String) :
    (nameStarts start names).length = names.length := by
  induction names generalizing start with
  | nil => rfl
  | cons name names ih => rw [nameStarts, List.length_cons, List.length_cons, ih]

/-- A name reads back from its start, whatever stands before the first name. -/
theorem takeWhile_drop_nameStarts {names : List String} (h : ∀ name ∈ names, 0 ∉ encode name)
    (front : Octets) {index : Nat} {name : String} (hindex : names[index]? = some name) :
    ∃ start, (nameStarts front.length names)[index]? = some start ∧
      start ≤ (front ++ names.flatMap nameOctets).length ∧
      ((front ++ names.flatMap nameOctets).drop start).takeWhile (· ≠ 0) = encode name := by
  induction names generalizing front index with
  | nil => cases hindex
  | cons first names ih =>
      obtain ⟨hfirst, hrest⟩ := List.forall_mem_cons.1 h
      rw [List.flatMap_cons]
      cases index with
      | zero =>
          cases hindex
          refine ⟨front.length, rfl, by simp, ?_⟩
          rw [List.drop_left, nameOctets, List.append_assoc, List.takeWhile_append_of_pos]
          · simp
          · intro b hb
            have hne : b ≠ 0 := fun hzero => hfirst (by rwa [hzero] at hb)
            simpa using hne
      | succ index =>
          have hfront := ih hrest (front ++ nameOctets first) hindex
          rwa [List.length_append, List.append_assoc] at hfront

end Names

section Build

variable {sections : List String}

def allNames (sections : List String) : List String := sections ++ [nameTableName]

def tableOf (sections : List String) : Octets := nameTableOctets (allNames sections)

def startsOf (sections : List String) : List Nat := nameStarts 1 (allNames sections)

def paddingOf (sections : List String) : Nat := (8 - (entrySize + (tableOf sections).length) % 8) % 8

def entriesStart (sections : List String) : Nat :=
  entrySize + (tableOf sections).length + paddingOf sections

def entries (sections : List String) : List Octets :=
  sectionOctets 0 0 0 0 ::
    (((startsOf sections).take sections.length).map fun start => sectionOctets start 0 0 0) ++
    ((startsOf sections).drop sections.length).map fun start =>
      sectionOctets start 3 entrySize (tableOf sections).length

def headOf (sections : List String) : Octets :=
  headerOctets (entriesStart sections) (sections.length + 2) ++
    (tableOf sections ++ List.replicate (paddingOf sections) 0)

theorem build_eq_append (sections : List String) :
    build sections = headOf sections ++ (entries sections).flatten := by
  simp only [build, headOf, entries, tableOf, startsOf, allNames, entriesStart, paddingOf,
    List.flatMap_def, List.flatten_append, List.flatten_cons, List.cons_append, List.append_assoc]

theorem length_headOf (sections : List String) :
    (headOf sections).length = entriesStart sections := by
  rw [headOf, List.length_append, length_headerOctets, List.length_append, List.length_replicate,
    entriesStart, Nat.add_assoc]

theorem length_of_mem_entries {chunk : Octets} (h : chunk ∈ entries sections) :
    chunk.length = entrySize := by
  simp only [entries, List.cons_append, List.mem_cons, List.mem_append, List.mem_map] at h
  rcases h with rfl | ⟨start, -, rfl⟩ | ⟨start, -, rfl⟩ <;> exact length_sectionOctets _ _ _ _

theorem length_startsOf (sections : List String) :
    (startsOf sections).length = sections.length + 1 := by
  rw [startsOf, length_nameStarts, allNames, List.length_append, List.length_singleton]

theorem length_entries (sections : List String) :
    (entries sections).length = sections.length + 2 := by
  have hstarts := length_startsOf sections
  simp only [entries, List.cons_append, List.length_cons, List.length_append, List.length_map,
    List.length_take, List.length_drop]
  omega

theorem getElem?_entries {index start : Nat} (h : (startsOf sections)[index]? = some start) :
    (entries sections)[index + 1]? =
      some (if index < sections.length then sectionOctets start 0 0 0
        else sectionOctets start 3 entrySize (tableOf sections).length) := by
  have hlength : ((startsOf sections).take sections.length).length = sections.length := by
    rw [List.length_take, length_startsOf]
    omega
  rw [entries, List.cons_append, List.getElem?_cons_succ]
  by_cases hindex : index < sections.length
  · rw [if_pos hindex, List.getElem?_append_left (by rwa [List.length_map, hlength]),
      List.getElem?_map, List.getElem?_take_of_lt hindex, h, Option.map_some]
  · have hback := Nat.le_of_not_lt hindex
    rw [if_neg hindex, List.getElem?_append_right (by rwa [List.length_map, hlength]),
      List.getElem?_map, List.getElem?_drop, List.length_map, hlength, Nat.add_sub_cancel' hback, h,
      Option.map_some]

theorem hasHeader_build (sections : List String) : HasHeader (build sections) := by
  rw [build_eq_append, headOf, List.append_assoc]
  exact hasHeader_headerOctets _ _ _

end Build

/-- The lists of names that an object can be built from: no name holds the character 0, the sections
can be counted in two octets and the places of the names told in four. -/
structure Buildable (sections : List String) : Prop where
  names : ∀ name ∈ sections, Char.ofNat 0 ∉ name.toList
  count : sections.length ≤ 65533
  table : (tableOf sections).length < Nat.pow 2 32

namespace Buildable

variable {sections : List String} (h : Buildable sections)

include h

theorem zero_notMem_encode {name : String} (hname : name ∈ allNames sections) :
    0 ∉ encode name := by
  rcases List.mem_append.1 hname with hsections | hlast
  · exact Text.zero_notMem_encode (h.names name hsections)
  · rw [List.mem_singleton.1 hlast]
    exact Text.zero_notMem_encode (by decide)

theorem entriesStart_lt : entriesStart sections < Nat.pow 2 33 := by
  have := h.table
  simp only [entriesStart, paddingOf, entrySize, Nat.pow_eq] at *
  omega

theorem headerOf_build :
    headerOf (build sections) =
      ⟨entriesStart sections, entrySize, sections.length + 2, sections.length + 1⟩ := by
  have hstart := h.entriesStart_lt
  have hcount := h.count
  rw [build_eq_append, headOf, List.append_assoc,
    headerOf_headerOctets (by simp only [Nat.pow_eq] at *; omega)
      (by simp only [Nat.pow_eq]; omega)]
  rfl

/-- The entry of a section reads back, and all of it lies in the file. -/
theorem entryOf_build {index name kind offset size : Nat}
    (hentry : (entries sections)[index]? = some (sectionOctets name kind offset size))
    (hname : name < Nat.pow 256 4) (hoffset : offset < Nat.pow 256 8) (hsize : size < Nat.pow 256 8) :
    entryOf (build sections) index = ⟨name, offset, size⟩ ∧
      Spans (build sections) (entryStart (build sections) index) entrySize := by
  obtain ⟨before, after, hflatten, hbefore⟩ :=
    flatten_eq_append (fun _ => length_of_mem_entries) hentry
  have hstart : entryStart (build sections) index = (headOf sections ++ before).length := by
    rw [entryStart, h.headerOf_build, List.length_append, length_headOf, hbefore, Nat.add_comm]
  have hbuild : build sections =
      (headOf sections ++ before) ++ (sectionOctets name kind offset size ++ after) := by
    rw [build_eq_append, hflatten, List.append_assoc]
  have hindex : index < sections.length + 2 := by
    rw [← length_entries]
    exact (List.getElem?_eq_some_iff.1 hentry).1
  refine ⟨?_, ?_, ?_⟩
  · rw [entryOf, hstart, hbuild]
    exact sectionAt_sectionOctets hname hoffset hsize kind rfl after
  · have hcount := h.count
    have hlow := h.entriesStart_lt
    rw [hstart, List.length_append, length_headOf, hbefore]
    simp only [addressSpace, entrySize, Nat.pow_eq] at *
    omega
  · rw [hstart, hbuild]
    simp only [List.length_append, length_sectionOctets]
    omega

theorem entryOf_build_zero :
    entryOf (build sections) 0 = ⟨0, 0, 0⟩ ∧
      Spans (build sections) (entryStart (build sections) 0) entrySize :=
  h.entryOf_build rfl (by decide) (by decide) (by decide)

theorem entryOf_build_succ {index : Nat} {name : String}
    (hindex : (allNames sections)[index]? = some name) :
    ∃ start, entryOf (build sections) (index + 1) =
        (if index < sections.length then ⟨start, 0, 0⟩
          else ⟨start, entrySize, (tableOf sections).length⟩) ∧
      Spans (build sections) (entryStart (build sections) (index + 1)) entrySize ∧
      start ≤ (tableOf sections).length ∧
      ((tableOf sections).drop start).takeWhile (· ≠ 0) = encode name := by
  obtain ⟨start, hstart, hle, htake⟩ :=
    takeWhile_drop_nameStarts (fun _ => h.zero_notMem_encode) [0] hindex
  have hentry := getElem?_entries hstart
  have htable := h.table
  have hname : start < Nat.pow 256 4 := Nat.lt_of_le_of_lt hle htable
  have hlength : (tableOf sections).length < Nat.pow 256 8 := Nat.lt_trans htable (by decide)
  refine ⟨start, ?_⟩
  by_cases hlast : index < sections.length
  · rw [if_pos hlast] at hentry ⊢
    obtain ⟨hread, hspans⟩ := h.entryOf_build hentry hname (by decide) (by decide)
    exact ⟨hread, hspans, hle, htake⟩
  · rw [if_neg hlast] at hentry ⊢
    obtain ⟨hread, hspans⟩ := h.entryOf_build hentry hname (by decide) hlength
    exact ⟨hread, hspans, hle, htake⟩

theorem namesEntry_build :
    ∃ start, namesEntry (build sections) = ⟨start, entrySize, (tableOf sections).length⟩ := by
  have hlast : (allNames sections)[sections.length]? = some nameTableName :=
    List.getElem?_concat_length
  obtain ⟨start, hentry, -⟩ := h.entryOf_build_succ hlast
  rw [if_neg (Nat.lt_irrefl _)] at hentry
  exact ⟨start, by rw [namesEntry, h.headerOf_build]; exact hentry⟩

theorem namesOf_build : namesOf (build sections) = tableOf sections := by
  obtain ⟨start, hentry⟩ := h.namesEntry_build
  have hslice := slice_append_right
    (length_headerOctets (entriesStart sections) (sections.length + 2))
    (tableOf sections ++ (List.replicate (paddingOf sections) 0 ++ (entries sections).flatten)) 0
    (tableOf sections).length
  rw [namesOf, hentry, build_eq_append, headOf, List.append_assoc, List.append_assoc]
  exact hslice.trans (by rw [slice, List.drop_zero, Nat.sub_zero, List.take_left])

theorem rawName_build_zero : rawName (build sections) 0 = [] := by
  rw [rawName, h.namesOf_build, h.entryOf_build_zero.1]
  rfl

theorem rawName_build_succ {index : Nat} {name : String}
    (hindex : (allNames sections)[index]? = some name) :
    rawName (build sections) (index + 1) = encode name := by
  obtain ⟨start, hentry, -, -, htake⟩ := h.entryOf_build_succ hindex
  have hname : (entryOf (build sections) (index + 1)).name = start := by
    rw [hentry]
    split <;> rfl
  rw [rawName, h.namesOf_build, hname, htake]

theorem spans_entry {index : Nat} (hindex : index < sections.length + 2) :
    Spans (build sections) (entryStart (build sections) index) fieldsSize ∧
      (entryOf (build sections) index).name ≤ (tableOf sections).length := by
  have hfields (start : Nat) : start + fieldsSize ≤ start + entrySize :=
    Nat.add_le_add_left (by decide) start
  cases index with
  | zero =>
      obtain ⟨hentry, hspans⟩ := h.entryOf_build_zero
      exact ⟨hspans.mono (hfields _), by rw [hentry]; exact Nat.zero_le _⟩
  | succ index =>
      have hname : index < (allNames sections).length := by
        rw [allNames, List.length_append, List.length_singleton]
        omega
      obtain ⟨start, hentry, hspans, hle, -⟩ :=
        h.entryOf_build_succ (List.getElem?_eq_getElem hname)
      refine ⟨hspans.mono (hfields _), ?_⟩
      rw [hentry]
      split <;> exact hle

theorem hasNames_build : HasNames (build sections) := by
  have hheader := h.headerOf_build
  obtain ⟨start, hnames⟩ := h.namesEntry_build
  refine ⟨by rw [hheader], ?_, ⟨?_, ?_⟩, fun index hindex => ?_, fun index hindex => ?_⟩
  · rw [hheader]
    exact (h.spans_entry (Nat.lt_succ_self _)).1
  · have htable := h.table
    rw [hnames]
    simp only [addressSpace, entrySize, Nat.pow_eq] at *
    omega
  · rw [hnames, build_eq_append, List.length_append, length_headOf]
    simp only [entriesStart]
    omega
  · rw [hheader] at hindex
    exact (h.spans_entry hindex).1
  · rw [hheader] at hindex
    rw [hnames]
    exact (h.spans_entry hindex).2

theorem rawNames_build :
    (List.range (sections.length + 2)).map (rawName (build sections)) =
      [] :: (allNames sections).map encode := by
  rw [List.range_succ_eq_map, List.map_cons, h.rawName_build_zero, List.map_map]
  have hlength : (allNames sections).length = sections.length + 1 := by simp [allNames]
  congr 1
  apply List.ext_getElem?
  intro index
  rw [← hlength, List.getElem?_map, List.getElem?_map]
  by_cases hindex : index < (allNames sections).length
  · have hname := List.getElem?_eq_getElem hindex
    rw [List.getElem?_range hindex, hname, Option.map_some, Option.map_some, Function.comp_apply,
      h.rawName_build_succ hname]
  · rw [List.getElem?_eq_none (Nat.le_of_not_lt hindex),
      List.getElem?_eq_none (by simpa using hindex)]
    rfl

theorem sectionNames_eq : sectionNames (build sections) = .ok ("" :: sections ++ [".shstrtab"]) := by
  have hdecode : decodeLossy ∘ encode = id := funext Text.decodeLossy_encode
  have hraw := congrArg (List.map decodeLossy) h.rawNames_build
  rw [List.map_map, List.map_cons, List.map_map, hdecode, List.map_id] at hraw
  refine sectionNames_eq_ok_iff.2 ⟨hasHeader_build sections, fun _ => h.hasNames_build, ?_⟩
  rw [h.headerOf_build]
  exact hraw.symm

end Buildable

end BpfBoot.Object