import BpfBoot.Object.Builder
import BpfBoot.Proofs.Sections

namespace BpfBoot.Object

open Text (Octets)

variable {bytes : Octets}

section AddressSpace

theorem field_eq_overflow_iff {part : Part} {size start : Nat} :
    field part bytes size start = .error .overflow ↔ addressSpace ≤ start + size := by
  unfold field
  by_cases hspace : addressSpace ≤ start + size
  · simp [hspace]
  · by_cases hfile : start + size ≤ bytes.length <;> simp [hspace, hfile]

theorem readHeader_ne_overflow : readHeader bytes ≠ .error .overflow := by
  intro h
  simp only [readHeader, throw_bind_ite_eq_error_iff, bind_eq_error_iff, field_eq_overflow_iff, pure,
    Except.pure] at h
  rcases h with ⟨-, h⟩ | ⟨-, ⟨-, h⟩ | ⟨-, ⟨-, h⟩ | ⟨-, h⟩⟩⟩
  · split at h <;> cases h
  · cases h
  · cases h
  · rcases h with h | ⟨_, -, h | ⟨_, -, h | ⟨_, -, h | ⟨_, -, h⟩⟩⟩⟩
    · exact absurd h (by decide)
    · exact absurd h (by decide)
    · exact absurd h (by decide)
    · exact absurd h (by decide)
    · cases h

/-- In a file that fills less than half of the address space, only the first field of an entry can
lie beyond the address space. -/
theorem readSection_eq_overflow_iff (hbytes : 2 * bytes.length < addressSpace) {table index : Nat} :
    readSection bytes table index = .error .overflow ↔
      index * entrySize + table < addressSpace ∧
        addressSpace ≤ index * entrySize + table + 4 := by
  have hspace : addressSpace = 2 ^ 64 := rfl
  simp only [readSection, throw_bind_ite_eq_error_iff, bind_eq_error_iff, field_eq_overflow_iff,
    field_eq_ok_iff, pure, Except.pure]
  generalize index * entrySize + table = base
  constructor
  · rintro (⟨-, h⟩ | ⟨hbase, h | ⟨_, ⟨⟨-, hfile⟩, -⟩, h⟩⟩)
    · cases h
    · exact ⟨Nat.not_le.1 hbase, h⟩
    · -- The first field is in the file, and so the others are far from the end of the space.
      rcases h with h | ⟨_, -, h | ⟨_, -, h⟩⟩
      · omega
      · omega
      · cases h
  · rintro ⟨hbase, h⟩
    exact .inr ⟨Nat.not_le.2 hbase, .inl h⟩

theorem nameTable_eq_overflow_iff {h : Header} :
    nameTable bytes h = .error .overflow ↔
      readSection bytes h.table h.nameIndex = .error .overflow := by
  simp only [nameTable, bind_eq_error_iff, throw_bind_ite_eq_error_iff, pure, Except.pure]
  simp

theorem nameAt_ne_overflow {names : Octets} {start : Nat} :
    nameAt names start ≠ .error .overflow := by
  unfold nameAt
  split <;> simp

theorem word_slice_lt (bytes : Octets) (start size : Nat) :
    word (slice bytes start (start + size)) < Nat.pow 256 size := by
  have hlength : (slice bytes start (start + size)).length ≤ size := by
    simp only [slice, List.length_take]
    omega
  exact Nat.lt_of_lt_of_le (word_lt _) (Nat.pow_le_pow_right (by decide) hlength)

theorem entryStart_lt (hbytes : 2 * bytes.length < addressSpace)
    (hholder : Spans bytes (entryStart bytes (headerOf bytes).nameIndex) fieldsSize) {index : Nat}
    (hindex : index < (headerOf bytes).count) : entryStart bytes index + 4 < addressSpace := by
  have hcount : (headerOf bytes).count < 0x10000 := word_slice_lt bytes 0x3C 2
  have hfile := hholder.2
  have hspace : addressSpace = 2 ^ 64 := rfl
  have hentry : entrySize = 64 := rfl
  simp only [entryStart, hentry] at *
  omega

theorem readNames_eq_overflow_iff (hbytes : 2 * bytes.length < addressSpace) :
    readNames bytes = .error .overflow ↔
      entryStart bytes (headerOf bytes).nameIndex < addressSpace ∧
        addressSpace ≤ entryStart bytes (headerOf bytes).nameIndex + 4 := by
  rw [readNames, bind_eq_error_iff, nameTable_eq_overflow_iff, readSection_eq_overflow_iff hbytes]
  refine or_iff_left ?_
  -- Once the names are there, every entry is read or found not to be in the file.
  rintro ⟨names, hnames, h⟩
  obtain ⟨index, hindex, h⟩ := mapM_eq_error h
  have hnear := entryStart_lt hbytes (nameTable_eq_ok_iff.1 hnames).1 (List.mem_range.1 hindex)
  rcases bind_eq_error_iff.1 h with h | ⟨_, -, h⟩
  · have hfar := ((readSection_eq_overflow_iff hbytes).1 h).2
    exact Nat.not_le.2 hnear hfar
  · exact nameAt_ne_overflow h

theorem rawNames_eq_overflow_iff (hbytes : 2 * bytes.length < addressSpace) :
    rawNames bytes = .error .overflow ↔
      HasHeader bytes ∧ (headerOf bytes).count ≠ 0 ∧ (headerOf bytes).entrySize = entrySize ∧
        entryStart bytes (headerOf bytes).nameIndex < addressSpace ∧
        addressSpace ≤ entryStart bytes (headerOf bytes).nameIndex + 4 := by
  by_cases hheader : HasHeader bytes
  · rw [rawNames_of_hasHeader hheader, ← readNames_eq_overflow_iff hbytes]
    by_cases hcount : (headerOf bytes).count = 0
    · simp [hcount]
    · by_cases hsize : (headerOf bytes).entrySize = entrySize <;> simp [hheader, hcount, hsize]
  · refine iff_of_false (fun h => ?_) fun h => hheader h.1
    rcases bind_eq_error_iff.1 h with h | ⟨_, h, -⟩
    · exact readHeader_ne_overflow h
    · exact hheader (readHeader_eq_ok_iff.1 h).1

/-- A file in memory fills less than half of the address space. Reading it is stopped by a sum
beyond that space just when the header is in order and puts the entry of the names at its very end.
-/
theorem sectionNames_eq_overflow_iff (hbytes : 2 * bytes.length < addressSpace) :
    (sectionNames bytes = .error .overflow ↔
      HasHeader bytes ∧ (headerOf bytes).count ≠ 0 ∧ (headerOf bytes).entrySize = entrySize ∧
        entryStart bytes (headerOf bytes).nameIndex < addressSpace ∧
        addressSpace ≤ entryStart bytes (headerOf bytes).nameIndex + 4) ∧
      (isCritical bytes = .error .overflow ↔ sectionNames bytes = .error .overflow) := by
  rw [isCritical, map_eq_error_iff, sectionNames, map_eq_error_iff]
  exact ⟨rawNames_eq_overflow_iff hbytes, Iff.rfl⟩

def topmost : Octets := headerOctets (addressSpace - 4) 1

theorem sectionNames_topmost :
    2 * topmost.length < addressSpace ∧ sectionNames topmost = .error .overflow := by
  have hlength : 2 * topmost.length < addressSpace := by decide +kernel
  refine ⟨hlength, (sectionNames_eq_overflow_iff hlength).1.2 ⟨⟨?_, ?_, ?_, ?_⟩, ?_, ?_, ?_, ?_⟩⟩
  all_goals decide +kernel

theorem topmost_unanswered :
    ¬∀ bytes : Octets, 2 * bytes.length < addressSpace →
      (∃ names, sectionNames bytes = .ok names) ∨ sectionNames bytes = .error .badMagic ∨
        (∃ fileClass encoding, sectionNames bytes = .error (.unsupported fileClass encoding)) ∨
        ∃ part, sectionNames bytes = .error (.truncated part) := by
  intro h
  have hstopped : sectionNames topmost = .error .overflow := rfl
  have hlength : 2 * topmost.length < addressSpace := by decide +kernel
  have hanswer := h topmost hlength
  rw [hstopped] at hanswer
  simp at hanswer

end AddressSpace

section Prefixes

theorem spans_take_iff {k start size : Nat} :
    Spans (bytes.take k) start size ↔ Spans bytes start size ∧ start + size ≤ k := by
  simp only [Spans, List.length_take]
  omega

theorem slice_take {k start stop : Nat} (h : stop ≤ k) :
    slice (bytes.take k) start stop = slice bytes start stop := by
  rw [slice, slice, List.drop_take, List.take_take, Nat.min_eq_left (Nat.sub_le_sub_right h start)]

theorem hasHeader_take_iff {k : Nat} :
    HasHeader (bytes.take k) ↔ HasHeader bytes ∧ entrySize ≤ k := by
  have hentry : entrySize = 64 := rfl
  by_cases hk : entrySize ≤ k
  · have hmagic : (bytes.take k).take 4 = bytes.take 4 := by
      rw [List.take_take, Nat.min_eq_left (by omega)]
    have hget (index : Nat) (h : index < k) : (bytes.take k).getD index 0 = bytes.getD index 0 := by
      rw [List.getD_eq_getElem?_getD, List.getD_eq_getElem?_getD, List.getElem?_take_of_lt h]
    have hfourth := hget 4 (by omega)
    have hfifth := hget 5 (by omega)
    constructor
    · rintro ⟨hlength, hm, hclass, hencoding⟩
      rw [List.length_take] at hlength
      exact ⟨⟨by omega, hmagic ▸ hm, hfourth ▸ hclass, hfifth ▸ hencoding⟩, hk⟩
    · rintro ⟨⟨hlength, hm, hclass, hencoding⟩, -⟩
      refine ⟨?_, hmagic.trans hm, hfourth.trans hclass, hfifth.trans hencoding⟩
      rw [List.length_take]
      omega
  · refine iff_of_false (fun h => hk ?_) fun h => hk h.2
    exact Nat.le_trans h.length (List.length_take_le k bytes)

variable {k : Nat}

theorem headerOf_take (hk : entrySize ≤ k) : headerOf (bytes.take k) = headerOf bytes := by
  have hslice (start size : Nat) (h : start + size ≤ entrySize) :
      slice (bytes.take k) start (start + size) = slice bytes start (start + size) :=
    slice_take (Nat.le_trans h hk)
  simp only [headerOf, hslice 0x28 8 (by decide), hslice 0x3A 2 (by decide),
    hslice 0x3C 2 (by decide), hslice 0x3E 2 (by decide)]

theorem sectionAt_take {base : Nat} (h : base + fieldsSize ≤ k) :
    sectionAt (bytes.take k) base = sectionAt bytes base := by
  have hfields : fieldsSize = 0x28 := rfl
  have hslice (start size : Nat) (hfits : start + size ≤ base + fieldsSize) :
      slice (bytes.take k) start (start + size) = slice bytes start (start + size) :=
    slice_take (Nat.le_trans hfits h)
  simp only [sectionAt, hslice base 4 (by omega), hslice (base + 0x18) 8 (by omega),
    hslice (base + 0x20) 8 (by omega)]

theorem entryStart_take (hk : entrySize ≤ k) (index : Nat) :
    entryStart (bytes.take k) index = entryStart bytes index := by
  rw [entryStart, entryStart, headerOf_take hk]

theorem entryOf_take (hk : entrySize ≤ k) {index : Nat}
    (h : entryStart bytes index + fieldsSize ≤ k) :
    entryOf (bytes.take k) index = entryOf bytes index := by
  rw [entryOf, entryStart_take hk]
  exact sectionAt_take h

theorem namesEntry_take (hk : entrySize ≤ k)
    (h : entryStart bytes (headerOf bytes).nameIndex + fieldsSize ≤ k) :
    namesEntry (bytes.take k) = namesEntry bytes := by
  rw [namesEntry, headerOf_take hk]
  exact entryOf_take hk h

/-- What is read beyond the header is among the first `k` octets. -/
structure Covers (bytes : Octets) (k : Nat) : Prop where
  holder : entryStart bytes (headerOf bytes).nameIndex + fieldsSize ≤ k
  region : (namesEntry bytes).offset + (namesEntry bytes).size ≤ k
  entries : ∀ index < (headerOf bytes).count, entryStart bytes index + fieldsSize ≤ k

theorem hasNames_take_iff (hk : entrySize ≤ k) :
    HasNames (bytes.take k) ↔ HasNames bytes ∧ Covers bytes k := by
  have hheader : headerOf (bytes.take k) = headerOf bytes := headerOf_take hk
  constructor
  · rintro ⟨hsize, hholder, hregion, hentries, hstarts⟩
    simp only [hheader, entryStart_take hk, spans_take_iff] at hsize hholder hentries hstarts
    have hcovered (index : Nat) (hindex : index < (headerOf bytes).count) :=
      entryOf_take hk (hentries index hindex).2
    simp only [namesEntry_take hk hholder.2, spans_take_iff] at hregion hstarts
    refine ⟨⟨hsize, hholder.1, hregion.1, fun index hindex => (hentries index hindex).1, ?_⟩,
      hholder.2, hregion.2, fun index hindex => (hentries index hindex).2⟩
    intro index hindex
    rw [← hcovered index hindex]
    exact hstarts index hindex
  · rintro ⟨⟨hsize, hholder, hregion, hentries, hstarts⟩, hcovers⟩
    have hnames := namesEntry_take hk hcovers.holder
    refine ⟨?_, ?_, ?_, fun index hindex => ?_, fun index hindex => ?_⟩
    · rw [hheader, hsize]
    · rw [hheader, entryStart_take hk]
      exact spans_take_iff.2 ⟨hholder, hcovers.holder⟩
    · rw [hnames]
      exact spans_take_iff.2 ⟨hregion, hcovers.region⟩
    · rw [hheader] at hindex
      rw [entryStart_take hk]
      exact spans_take_iff.2 ⟨hentries index hindex, hcovers.entries index hindex⟩
    · rw [hheader] at hindex
      rw [hnames, entryOf_take hk (hcovers.entries index hindex)]
      exact hstarts index hindex

theorem rawName_take (hk : entrySize ≤ k) (h : Covers bytes k) {index : Nat}
    (hindex : index < (headerOf bytes).count) :
    rawName (bytes.take k) index = rawName bytes index := by
  have hnames : namesOf (bytes.take k) = namesOf bytes := by
    rw [namesOf, namesEntry_take hk h.holder]
    exact slice_take h.region
  rw [rawName, rawName, hnames, entryOf_take hk (h.entries index hindex)]

/-- How many octets of a file are needed to read it as an object. Of the entries of the section
table, the last one and the one of the names reach furthest. -/
def extent (bytes : Octets) : Nat :=
  let h := headerOf bytes
  if h.count = 0 then entrySize
  else max (max entrySize ((namesEntry bytes).offset + (namesEntry bytes).size))
    (max (entryStart bytes h.nameIndex) (entryStart bytes (h.count - 1)) + fieldsSize)

theorem entryStart_mono {index last : Nat} (h : index ≤ last) :
    entryStart bytes index ≤ entryStart bytes last :=
  Nat.add_le_add_right (Nat.mul_le_mul_right entrySize h) _

theorem extent_le_iff :
    extent bytes ≤ k ↔ entrySize ≤ k ∧ ((headerOf bytes).count ≠ 0 → Covers bytes k) := by
  rw [extent]
  by_cases hcount : (headerOf bytes).count = 0
  · simp [hcount]
  rw [if_neg hcount]
  constructor
  · intro h
    refine ⟨by omega, fun _ => ⟨by omega, by omega, fun index hindex => ?_⟩⟩
    have hlast : entryStart bytes index ≤ entryStart bytes ((headerOf bytes).count - 1) :=
      entryStart_mono (Nat.le_sub_one_of_lt hindex)
    omega
  · rintro ⟨hk, hcovers⟩
    obtain ⟨hholder, hregion, hentries⟩ := hcovers hcount
    have := hentries _ (Nat.sub_one_lt hcount)
    omega

/-- A prefix of a file is read just when it holds all that is read of the whole file, and then it
has the same names. -/
theorem sectionNames_take_eq_ok_iff {names : List String} :
    sectionNames (bytes.take k) = .ok names ↔
      sectionNames bytes = .ok names ∧ extent bytes ≤ k := by
  rw [sectionNames_eq_ok_iff, sectionNames_eq_ok_iff, extent_le_iff, hasHeader_take_iff]
  by_cases hk : entrySize ≤ k
  · rw [headerOf_take hk, hasNames_take_iff hk]
    have hsame (hcovers : (headerOf bytes).count ≠ 0 → Covers bytes k) :
        (List.range (headerOf bytes).count).map
            (fun index => Text.decodeLossy (rawName (bytes.take k) index)) =
          (List.range (headerOf bytes).count).map
            fun index => Text.decodeLossy (rawName bytes index) := by
      refine List.map_congr_left fun index hindex => ?_
      have hindex := List.mem_range.1 hindex
      rw [rawName_take hk (hcovers (Nat.ne_zero_of_lt hindex)) hindex]
    constructor
    · rintro ⟨⟨hheader, -⟩, hboth, rfl⟩
      have hcovers := fun hcount => (hboth hcount).2
      exact ⟨⟨hheader, fun hcount => (hboth hcount).1, hsame hcovers⟩, hk, hcovers⟩
    · rintro ⟨⟨hheader, hnames, rfl⟩, -, hcovers⟩
      exact ⟨⟨hheader, hk⟩, fun hcount => ⟨hnames hcount, hcovers hcount⟩, (hsame hcovers).symm⟩
  · simp [hk]

theorem sectionNames_append {names : List String} (h : sectionNames bytes = .ok names)
    (extra : Octets) : sectionNames (bytes ++ extra) = .ok names := by
  have hcut : (bytes ++ extra).take bytes.length = bytes := List.take_left
  rw [← hcut] at h
  exact (sectionNames_take_eq_ok_iff.1 h).1

/-- A file that is read is read in the same way whatever follows it. So a cut copy of a file is
turned down, or else it has the names of the whole and is critical just if the whole is. -/
theorem classification_append (bytes extra : Octets) :
    (∀ names, sectionNames bytes = .ok names → sectionNames (bytes ++ extra) = .ok names) ∧
      (∀ critical, isCritical bytes = .ok critical → isCritical (bytes ++ extra) = .ok critical) ∧
      ((∃ fault, sectionNames bytes = .error fault ∧ isCritical bytes = .error fault) ∨
        ∃ names, sectionNames bytes = .ok names ∧ sectionNames (bytes ++ extra) = .ok names ∧
          isCritical bytes = .ok (names.contains criticalName) ∧
          isCritical (bytes ++ extra) = .ok (names.contains criticalName)) := by
  refine ⟨fun names h => sectionNames_append h extra, ?_, ?_⟩
  · intro critical h
    obtain ⟨names, hnames, hcritical⟩ := map_eq_ok_iff.1 h
    exact map_eq_ok_iff.2 ⟨names, sectionNames_append hnames extra, hcritical⟩
  · rcases hnames : sectionNames bytes with fault | names
    · exact .inl ⟨fault, rfl, map_eq_error_iff.2 hnames⟩
    · have hwhole := sectionNames_append hnames extra
      exact .inr ⟨names, rfl, hwhole, map_eq_ok_iff.2 ⟨names, hnames, rfl⟩,
        map_eq_ok_iff.2 ⟨names, hwhole, rfl⟩⟩

/-- Of the section table all but the end of its last entry is in the file. No file that ends before
is read, wherever it ends; one that holds all that is read of the whole has the same names. -/
theorem table_in_file {names : List String} (h : sectionNames bytes = .ok names)
    (hcount : (headerOf bytes).count ≠ 0) :
    let stop := (headerOf bytes).table + entrySize * (headerOf bytes).count -
      (entrySize - fieldsSize)
    stop ≤ bytes.length ∧ (∀ k < stop, ∃ fault, sectionNames (bytes.take k) = .error fault) ∧
      ∀ k, sectionNames (bytes.take k) = .ok names ↔ extent bytes ≤ k := by
  intro stop
  have hstop : stop ≤ extent bytes := by
    have hlast := ((extent_le_iff.1 (Nat.le_refl _)).2 hcount).entries _ (Nat.sub_one_lt hcount)
    have hentry : entrySize = 64 := rfl
    have hfields : fieldsSize = 40 := rfl
    simp only [stop, entryStart, hentry, hfields] at *
    omega
  have hread (k : Nat) : sectionNames (bytes.take k) = .ok names ↔ extent bytes ≤ k := by
    rw [sectionNames_take_eq_ok_iff]
    exact and_iff_right h
  refine ⟨?_, fun k hk => ?_, hread⟩
  · have hwhole := (hread bytes.length).1 (by rwa [List.take_length])
    exact Nat.le_trans hstop hwhole
  · rcases hcut : sectionNames (bytes.take k) with fault | others
    · exact ⟨fault, rfl⟩
    · have := (sectionNames_take_eq_ok_iff.1 hcut).2
      omega

theorem table_in_file_license :
    ∃ names, sectionNames (build ["license"]) = .ok names ∧
      (headerOf (build ["license"])).count ≠ 0 ∧
        ∀ k < 256, ∃ fault, sectionNames ((build ["license"]).take k) = .error fault := by
  have hread : (sectionNames (build ["license"])).toOption = some ["", "license", ".shstrtab"] := by
    decide +kernel
  rcases hnames : sectionNames (build ["license"]) with fault | names
  · rw [hnames] at hread
    cases hread
  · have hcount : (headerOf (build ["license"])).count ≠ 0 := by decide +kernel
    refine ⟨names, rfl, hcount, fun k hk => (table_in_file hnames hcount).2.1 k ?_⟩
    have hstop : (headerOf (build ["license"])).table +
        entrySize * (headerOf (build ["license"])).count - (entrySize - fieldsSize) = 256 := by
      decide +kernel
    omega

def cutObject : Octets :=
  (build ["license"]).take ((build ["license"]).length - (entrySize - fieldsSize))

theorem cut_table_is_read :
    ¬∀ bytes names, sectionNames bytes = .ok names → 0 < (headerOf bytes).count →
      (headerOf bytes).table + entrySize * (headerOf bytes).count ≤ bytes.length := by
  intro h
  have hread : (sectionNames cutObject).toOption = some ["", "license", ".shstrtab"] := by
    decide +kernel
  rcases hnames : sectionNames cutObject with fault | names
  · rw [hnames] at hread
    cases hread
  · have hinside := h cutObject names hnames (by decide +kernel)
    exact absurd hinside (by decide +kernel)

end Prefixes

end BpfBoot.Object
