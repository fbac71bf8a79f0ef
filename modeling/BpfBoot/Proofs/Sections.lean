import BpfBoot.Object.Sections
import BpfBoot.Proofs.Results

namespace BpfBoot.Object

open Text (Octets)

theorem word_lt (octets : Octets) : word octets < Nat.pow 256 octets.length := by
  induction octets with
  | nil => simp [word]
  | cons b rest ih =>
      have hb := b.toNat_lt
      rw [word, List.length_cons, Nat.pow_eq, Nat.pow_succ]
      rw [Nat.pow_eq] at ih
      omega

/-- A run of octets lies in the file, and in the address space. -/
def Spans (bytes : Octets) (start size : Nat) : Prop :=
  start + size < addressSpace ∧ start + size ≤ bytes.length

def headerOf (bytes : Octets) : Header where
  table := word (slice bytes 0x28 (0x28 + 8))
  entrySize := word (slice bytes 0x3A (0x3A + 2))
  count := word (slice bytes 0x3C (0x3C + 2))
  nameIndex := word (slice bytes 0x3E (0x3E + 2))

def sectionAt (bytes : Octets) (base : Nat) : Section where
  name := word (slice bytes base (base + 4))
  offset := word (slice bytes (base + 0x18) (base + 0x18 + 8))
  size := word (slice bytes (base + 0x20) (base + 0x20 + 8))

def fieldsSize : Nat := 0x28

def entryStart (bytes : Octets) (index : Nat) : Nat :=
  index * entrySize + (headerOf bytes).table

def entryOf (bytes : Octets) (index : Nat) : Section := sectionAt bytes (entryStart bytes index)

def namesEntry (bytes : Octets) : Section := entryOf bytes (headerOf bytes).nameIndex

def namesOf (bytes : Octets) : Octets :=
  slice bytes (namesEntry bytes).offset ((namesEntry bytes).offset + (namesEntry bytes).size)

def rawName (bytes : Octets) (index : Nat) : Octets :=
  ((namesOf bytes).drop (entryOf bytes index).name).takeWhile (· ≠ 0)

structure HasHeader (bytes : Octets) : Prop where
  length : entrySize ≤ bytes.length
  magic : bytes.take 4 = magic
  fileClass : bytes.getD 4 0 = 2
  encoding : bytes.getD 5 0 = 1

structure HasNames (bytes : Octets) : Prop where
  entrySize : (headerOf bytes).entrySize = entrySize
  holder : Spans bytes (entryStart bytes (headerOf bytes).nameIndex) fieldsSize
  region : Spans bytes (namesEntry bytes).offset (namesEntry bytes).size
  entries : ∀ index < (headerOf bytes).count, Spans bytes (entryStart bytes index) fieldsSize
  starts : ∀ index < (headerOf bytes).count, (entryOf bytes index).name ≤ (namesEntry bytes).size

variable {bytes : Octets}

theorem Spans.mono {start size inner length : Nat} (h : Spans bytes start size)
    (hinner : inner + length ≤ start + size) : Spans bytes inner length :=
  ⟨Nat.lt_of_le_of_lt hinner h.1, Nat.le_trans hinner h.2⟩

theorem Spans.length_slice {start size : Nat} (h : Spans bytes start size) :
    (slice bytes start (start + size)).length = size := by
  have := h.2
  simp only [slice, List.length_take, List.length_drop]
  omega

theorem field_eq_ok_iff {part : Part} {size start n : Nat} :
    field part bytes size start = .ok n ↔
      Spans bytes start size ∧ n = word (slice bytes start (start + size)) := by
  unfold field Spans
  by_cases hspace : addressSpace ≤ start + size
  · simp [hspace, Nat.not_lt.2 hspace]
  · by_cases hfile : start + size ≤ bytes.length <;>
      simp [hspace, hfile, Nat.not_le.1 hspace, eq_comm]

theorem length_namesOf (h : Spans bytes (namesEntry bytes).offset (namesEntry bytes).size) :
    (namesOf bytes).length = (namesEntry bytes).size :=
  h.length_slice

theorem readHeader_eq_ok_iff {h : Header} :
    readHeader bytes = .ok h ↔ HasHeader bytes ∧ h = headerOf bytes := by
  simp only [readHeader, throw_bind_ite_eq_ok_iff, bind_eq_ok_iff, field_eq_ok_iff, pure, Except.pure,
    Except.ok.injEq, Nat.not_lt, Decidable.not_not, not_or]
  constructor
  · rintro ⟨hlength, hmagic, ⟨hclass, hencoding⟩, _, ⟨-, rfl⟩, _, ⟨-, rfl⟩, _, ⟨-, rfl⟩, _, ⟨-, rfl⟩,
      rfl⟩
    exact ⟨⟨hlength, hmagic, hclass, hencoding⟩, rfl⟩
  · rintro ⟨hheader, rfl⟩
    have hfield (start size : Nat) (hfits : start + size ≤ entrySize) : Spans bytes start size :=
      ⟨Nat.lt_of_le_of_lt hfits (by decide), Nat.le_trans hfits hheader.length⟩
    exact ⟨hheader.length, hheader.magic, ⟨hheader.fileClass, hheader.encoding⟩,
      _, ⟨hfield _ _ (by decide), rfl⟩, _, ⟨hfield _ _ (by decide), rfl⟩,
      _, ⟨hfield _ _ (by decide), rfl⟩, _, ⟨hfield _ _ (by decide), rfl⟩, rfl⟩

theorem readSection_eq_ok_iff {table index : Nat} {entry : Section} :
    readSection bytes table index = .ok entry ↔
      Spans bytes (index * entrySize + table) fieldsSize ∧
        entry = sectionAt bytes (index * entrySize + table) := by
  simp only [readSection, throw_bind_ite_eq_ok_iff, bind_eq_ok_iff, field_eq_ok_iff, pure,
    Except.pure, Except.ok.injEq]
  generalize index * entrySize + table = base
  constructor
  · rintro ⟨-, _, ⟨-, rfl⟩, _, ⟨-, rfl⟩, _, ⟨hspans, rfl⟩, rfl⟩
    exact ⟨hspans, rfl⟩
  · rintro ⟨hspans, rfl⟩
    have hfield (start size : Nat) (hfits : start + size ≤ base + fieldsSize) :
        Spans bytes start size := hspans.mono hfits
    have hspace : ¬addressSpace ≤ base :=
      Nat.not_le.2 (Nat.lt_of_le_of_lt (Nat.le_add_right base fieldsSize) hspans.1)
    exact ⟨hspace, _, ⟨hfield _ _ (by simp [fieldsSize]), rfl⟩, _,
      ⟨hfield _ _ (by simp [fieldsSize]), rfl⟩, _, ⟨hspans, rfl⟩, rfl⟩

theorem nameTable_eq_ok_iff {names : Octets} :
    nameTable bytes (headerOf bytes) = .ok names ↔
      Spans bytes (entryStart bytes (headerOf bytes).nameIndex) fieldsSize ∧
        Spans bytes (namesEntry bytes).offset (namesEntry bytes).size ∧ names = namesOf bytes := by
  simp only [nameTable, bind_eq_ok_iff, readSection_eq_ok_iff, throw_bind_ite_eq_ok_iff, pure,
    Except.pure, Except.ok.injEq, not_or, Nat.not_le, Nat.not_lt]
  constructor
  · rintro ⟨_, ⟨hholder, rfl⟩, hregion, rfl⟩
    exact ⟨hholder, hregion, rfl⟩
  · rintro ⟨hholder, hregion, rfl⟩
    exact ⟨_, ⟨hholder, rfl⟩, hregion, rfl⟩

theorem nameAt_eq_ok_iff {names name : Octets} {start : Nat} :
    nameAt names start = .ok name ↔
      start ≤ names.length ∧ name = (names.drop start).takeWhile (· ≠ 0) := by
  unfold nameAt
  by_cases hstart : start ≤ names.length <;> simp [hstart, eq_comm]

def readName (bytes names : Octets) (index : Nat) : Except Fault Octets := do
  nameAt names (← readSection bytes (headerOf bytes).table index).name

def readNames (bytes : Octets) : Except Fault (List Octets) := do
  let names ← nameTable bytes (headerOf bytes)
  (List.range (headerOf bytes).count).mapM (readName bytes names)

theorem readName_eq_ok_iff {name : Octets} {index : Nat} :
    readName bytes (namesOf bytes) index = .ok name ↔
      (Spans bytes (entryStart bytes index) fieldsSize ∧
        (entryOf bytes index).name ≤ (namesOf bytes).length) ∧ name = rawName bytes index := by
  simp only [readName, bind_eq_ok_iff, readSection_eq_ok_iff, nameAt_eq_ok_iff]
  constructor
  · rintro ⟨_, ⟨hentry, rfl⟩, hstart, rfl⟩
    exact ⟨⟨hentry, hstart⟩, rfl⟩
  · rintro ⟨⟨hentry, hstart⟩, rfl⟩
    exact ⟨_, ⟨hentry, rfl⟩, hstart, rfl⟩

theorem readNames_eq_ok_iff (hsize : (headerOf bytes).entrySize = entrySize) {raw : List Octets} :
    readNames bytes = .ok raw ↔
      HasNames bytes ∧ raw = (List.range (headerOf bytes).count).map (rawName bytes) := by
  simp only [readNames, bind_eq_ok_iff, nameTable_eq_ok_iff]
  constructor
  · rintro ⟨_, ⟨hholder, hregion, rfl⟩, hraw⟩
    obtain ⟨hentries, rfl⟩ := (mapM_eq_ok_iff fun _ _ => readName_eq_ok_iff).1 hraw
    rw [length_namesOf hregion] at hentries
    refine ⟨⟨hsize, hholder, hregion, ?_, ?_⟩, rfl⟩
    · exact fun index hindex => (hentries index (List.mem_range.2 hindex)).1
    · exact fun index hindex => (hentries index (List.mem_range.2 hindex)).2
  · rintro ⟨⟨-, hholder, hregion, hentries, hstarts⟩, rfl⟩
    refine ⟨_, ⟨hholder, hregion, rfl⟩, (mapM_eq_ok_iff fun _ _ => readName_eq_ok_iff).2 ⟨?_, rfl⟩⟩
    intro index hindex
    rw [length_namesOf hregion]
    exact ⟨hentries index (List.mem_range.1 hindex), hstarts index (List.mem_range.1 hindex)⟩

theorem rawNames_of_hasHeader (h : HasHeader bytes) :
    rawNames bytes =
      if (headerOf bytes).count = 0 then .ok []
      else if (headerOf bytes).entrySize ≠ entrySize then .error (.truncated .sectionEntry)
      else readNames bytes := by
  rw [rawNames, readHeader_eq_ok_iff.2 ⟨h, rfl⟩]
  rfl

/-- An object is read just when its header and, if it has sections at all, its names are there. -/
theorem rawNames_eq_ok_iff {raw : List Octets} :
    rawNames bytes = .ok raw ↔
      HasHeader bytes ∧ ((headerOf bytes).count ≠ 0 → HasNames bytes) ∧
        raw = (List.range (headerOf bytes).count).map (rawName bytes) := by
  by_cases hheader : HasHeader bytes
  · rw [rawNames_of_hasHeader hheader]
    by_cases hcount : (headerOf bytes).count = 0
    · simp [hcount, hheader, eq_comm]
    rw [if_neg hcount]
    by_cases hsize : (headerOf bytes).entrySize = entrySize
    · rw [if_neg (Decidable.not_not.2 hsize), readNames_eq_ok_iff hsize]
      simp [hheader, hcount]
    · rw [if_pos hsize]
      exact iff_of_false (fun h => nomatch h) fun h => hsize (h.2.1 hcount).entrySize
  · refine iff_of_false (fun h => ?_) fun h => hheader h.1
    obtain ⟨_, h, -⟩ := bind_eq_ok_iff.1 h
    exact hheader (readHeader_eq_ok_iff.1 h).1

theorem sectionNames_eq_ok_iff {names : List String} :
    sectionNames bytes = .ok names ↔
      HasHeader bytes ∧ ((headerOf bytes).count ≠ 0 → HasNames bytes) ∧
        names = (List.range (headerOf bytes).count).map fun index =>
          Text.decodeLossy (rawName bytes index) := by
  simp only [sectionNames, map_eq_ok_iff, rawNames_eq_ok_iff]
  constructor
  · rintro ⟨_, ⟨hheader, hnames, rfl⟩, rfl⟩
    exact ⟨hheader, hnames, by rw [List.map_map]; rfl⟩
  · rintro ⟨hheader, hnames, rfl⟩
    exact ⟨_, ⟨hheader, hnames, rfl⟩, by rw [List.map_map]; rfl⟩

end BpfBoot.Object
