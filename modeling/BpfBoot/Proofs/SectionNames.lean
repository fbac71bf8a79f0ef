import BpfBoot.Proofs.Decoding
import BpfBoot.Proofs.Sections

namespace BpfBoot.Object

open Text (Octets decodeLossy)

variable {bytes : Octets}

def rawCritical : Octets := [0x63, 0x72, 0x69, 0x74, 0x69, 0x63, 0x61, 0x6C]

theorem decodeLossy_eq_criticalName_iff {name : Octets} :
    decodeLossy name = criticalName ↔ name = rawCritical := by
  have hascii : ∀ b ∈ rawCritical, b < 0x80 ∧ b ≠ 0 := by simp [rawCritical]
  have hname : criticalName.toList = rawCritical.map fun b => Char.ofNat b.toNat := rfl
  rw [← Text.decodeLossy_eq_ascii_iff hascii, ← hname, String.toList_inj]

/-- The octets of a region from a place in it up to the first octet 0, or to the region's end. -/
structure IsNameAt (region : Octets) (start : Nat) (name : Octets) : Prop where
  inside : start ≤ region.length
  runs : name <+: region.drop start
  unbroken : 0 ∉ name
  ends : region[start + name.length]? = none ∨ region[start + name.length]? = some 0

theorem getElem?_length_takeWhile (octets : Octets) :
    octets[(octets.takeWhile (· ≠ 0)).length]? = none ∨
      octets[(octets.takeWhile (· ≠ 0)).length]? = some 0 := by
  induction octets with
  | nil => exact .inl rfl
  | cons b rest ih =>
      by_cases hb : b = 0
      · exact .inr (by simp [hb])
      · rw [List.takeWhile_cons_of_pos (by simpa using hb), List.length_cons, List.getElem?_cons_succ]
        exact ih

theorem isNameAt_takeWhile {region : Octets} {start : Nat} (h : start ≤ region.length) :
    IsNameAt region start ((region.drop start).takeWhile (· ≠ 0)) := by
  refine ⟨h, List.takeWhile_prefix _, fun hmem => ?_, ?_⟩
  · simpa using List.mem_takeWhile_imp hmem
  · rw [← List.getElem?_drop]
    exact getElem?_length_takeWhile (region.drop start)

theorem isNameAt_rawName (hnames : HasNames bytes) {index : Nat}
    (hindex : index < (headerOf bytes).count) :
    IsNameAt (namesOf bytes) (entryOf bytes index).name (rawName bytes index) := by
  have hstart : (entryOf bytes index).name ≤ (namesOf bytes).length := by
    rw [length_namesOf hnames.region]
    exact hnames.starts index hindex
  exact isNameAt_takeWhile hstart

theorem isCritical_of_sectionNames {names : List String} (h : sectionNames bytes = .ok names) :
    isCritical bytes = .ok (names.contains criticalName) := by
  rw [isCritical, h]
  rfl

theorem contains_criticalName_iff {names : List String} (h : sectionNames bytes = .ok names) :
    names.contains criticalName = true ↔
      ∃ index < (headerOf bytes).count, rawName bytes index = rawCritical := by
  obtain ⟨-, -, rfl⟩ := sectionNames_eq_ok_iff.1 h
  simp only [List.contains_iff_mem, List.mem_map, List.mem_range, decodeLossy_eq_criticalName_iff]

/-- The sections of an object as the file gives them: each name is the decoded text of the octets
that stand at its place among the names, and the object is critical just when one name has the
octets of the critical one. -/
theorem criticality_of_rawNames (bytes : Octets) :
    (∀ names, sectionNames bytes = .ok names →
      names.length = (headerOf bytes).count ∧
      ((headerOf bytes).count ≠ 0 →
        Spans bytes (namesEntry bytes).offset (namesEntry bytes).size) ∧
      (∀ index < (headerOf bytes).count,
        IsNameAt (namesOf bytes) (entryOf bytes index).name (rawName bytes index) ∧
          names[index]? = some (decodeLossy (rawName bytes index))) ∧
      (isCritical bytes = .ok true ↔
        ∃ index < (headerOf bytes).count, rawName bytes index = rawCritical) ∧
      (isCritical bytes = .ok false ↔
        ∀ index < (headerOf bytes).count, rawName bytes index ≠ rawCritical)) ∧
    ∀ fault, sectionNames bytes = .error fault → isCritical bytes = .error fault := by
  refine ⟨fun names h => ?_, fun fault h => by rw [isCritical, h]; rfl⟩
  have hcritical := contains_criticalName_iff h
  obtain ⟨-, hnames, rfl⟩ := sectionNames_eq_ok_iff.1 h
  rw [isCritical_of_sectionNames h]
  refine ⟨by simp, fun hcount => (hnames hcount).region, fun index hindex => ⟨?_, ?_⟩, ?_, ?_⟩
  · exact isNameAt_rawName (hnames (Nat.ne_zero_of_lt hindex)) hindex
  · simp [hindex]
  · rw [← hcritical, Except.ok.injEq]
  · have hnone : (∀ index < (headerOf bytes).count, rawName bytes index ≠ rawCritical) ↔
        ¬∃ index < (headerOf bytes).count, rawName bytes index = rawCritical := by
      simp
    rw [hnone, ← hcritical, Except.ok.injEq, Bool.not_eq_true]

end BpfBoot.Object
