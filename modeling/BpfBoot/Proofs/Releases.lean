import Mathlib
import BpfBoot.Kernel.Version
import BpfBoot.Proofs.Trimming

namespace BpfBoot

namespace Text

variable {c : Char} {rest cs : List Char}

def beginsWithDigit (cs : List Char) : Bool := cs.head?.any isDigit

theorem takeWhile_isDigit_eq_nil_iff : cs.takeWhile isDigit = [] ↔ beginsWithDigit cs = false := by
  cases cs with
  | nil => simp [beginsWithDigit]
  | cons c cs => simp [beginsWithDigit, List.takeWhile_cons]

theorem leadingWord32?_append (hrest : beginsWithDigit rest = false) (run : List Char) :
    leadingWord32? (run ++ rest) = leadingWord32? run := by
  have hdigits : (run ++ rest).takeWhile isDigit = run.takeWhile isDigit := by
    induction run with
    | nil => exact takeWhile_isDigit_eq_nil_iff.2 hrest
    | cons c run ih => rw [List.cons_append, List.takeWhile_cons, List.takeWhile_cons, ih]
  rw [leadingWord32?, leadingWord32?, hdigits]

theorem isBlank_of_isDigit (h : isDigit c = true) : isBlank c = false := by
  have apart : ∀ r ∈ blankRanges, r.2 < 0x30 ∨ 0x39 < r.1 := by decide
  simp only [isDigit, Bool.and_eq_true, decide_eq_true_eq, Char.le_def, UInt32.le_iff_toNat_le] at h
  rw [Bool.eq_false_iff]
  intro hblank
  obtain ⟨r, mem, lower, upper⟩ := Ranges.holds_iff.1 hblank
  have := apart r mem
  change 0x30 ≤ c.toNat ∧ c.toNat ≤ 0x39 at h
  omega

def numeral (zeros n : Nat) : List Char := List.replicate zeros '0' ++ Nat.toDigits 10 n

theorem isDigit_of_mem_numeral {zeros n : Nat} (h : c ∈ numeral zeros n) : isDigit c = true := by
  rcases List.mem_append.1 h with h | h
  · rw [List.eq_of_mem_replicate h]
    decide
  · exact Nat.isDigit_of_mem_toDigits (by decide) (by decide) h

theorem ofDigits_numeral (zeros n : Nat) : ofDigits (numeral zeros n) = n := by
  change Nat.ofDigitChars 10 (numeral zeros n) 0 = n
  rw [numeral, Nat.ofDigitChars_append, Nat.ofDigitChars_replicate_zero, Nat.mul_zero,
    Nat.ofDigitChars_ten_toDigits]

theorem leadingWord32?_numeral (zeros : Nat) (n : UInt32) :
    leadingWord32? (numeral zeros n.toNat) = some n := by
  have hrun : ∀ c ∈ numeral zeros n.toNat, isDigit c = true := fun c => isDigit_of_mem_numeral
  have hne : numeral zeros n.toNat ≠ [] :=
    fun heq => Nat.toDigits_ne_nil (List.append_eq_nil_iff.1 heq).2
  rw [leadingWord32?, List.takeWhile_eq_self_iff.2 hrun, word32OfDigits?, if_neg, ofDigits_numeral,
    if_pos n.toNat_lt_size, UInt32.ofNat_toNat]
  rw [List.isEmpty_eq_false_iff.2 hne, List.all_eq_true.2 hrun]
  exact Bool.false_ne_true

theorem leadingWord32?_eq_none_iff :
    leadingWord32? cs = none ↔
      beginsWithDigit cs = false ∨ 2 ^ 32 ≤ Nat.ofDigitChars 10 (cs.takeWhile isDigit) 0 := by
  have hall : (cs.takeWhile isDigit).all isDigit = true := List.all_takeWhile
  rw [leadingWord32?, word32OfDigits?, hall, ← takeWhile_isDigit_eq_nil_iff]
  change _ ↔ _ ∨ UInt32.size ≤ ofDigits (cs.takeWhile isDigit)
  rcases cs.takeWhile isDigit with _ | ⟨c, run⟩
  · simp
  · by_cases h : ofDigits (c :: run) < UInt32.size
    · simp [h]
    · simp [h, Nat.not_lt.1 h]

end Text

namespace Version

open Text (Blank beginsWithDigit leadingWord32? numeral trim trimEnd)

variable {i j k : Nat}

def padded (v : Version) (i j k : Nat) : String :=
  String.ofList (numeral i v.major.toNat ++ '.' :: (numeral j v.minor.toNat ++
    '.' :: numeral k v.patch.toNat))

theorem text_eq_padded (v : Version) : v.text = v.padded 0 0 0 := by
  rw [← String.toList_inj]
  simp [text, padded, numeral]

theorem point_not_mem_numeral (zeros n : Nat) : '.' ∉ numeral zeros n :=
  fun h => absurd (Text.isDigit_of_mem_numeral h) (by decide)

theorem releaseParts_of_not_mem {major minor : List Char} (hmajor : '.' ∉ major)
    (hminor : '.' ∉ minor) (patch : List Char) :
    releaseParts (major ++ '.' :: (minor ++ '.' :: patch)) = (major, some minor, some patch) := by
  rw [releaseParts, Text.splitOnce_of_not_mem hmajor]
  simp only [Text.splitOnce_of_not_mem hminor]

theorem leadingWord32?_releaseParts (cs : List Char) :
    leadingWord32? (releaseParts cs).1 = leadingWord32? cs := by
  have hcut {front back : List Char} (h : Text.splitOnce '.' cs = some (front, back)) :
      leadingWord32? front = leadingWord32? cs := by
    obtain ⟨rfl, -⟩ := Text.eq_append_of_splitOnce h
    exact (Text.leadingWord32?_append rfl front).symm
  rw [releaseParts]
  split
  next => rfl
  next hmajor =>
    split
    · exact hcut hmajor
    · exact hcut hmajor

theorem isBlank_of_mem_padded {v : Version} {c : Char} (h : c ∈ (v.padded i j k).toList) :
    Text.isBlank c = false := by
  have hnumeral {zeros n : Nat} (h : c ∈ numeral zeros n) : Text.isBlank c = false :=
    Text.isBlank_of_isDigit (Text.isDigit_of_mem_numeral h)
  simp only [padded, String.toList_ofList, List.mem_append, List.mem_cons] at h
  rcases h with h | rfl | h | rfl | h
  · exact hnumeral h
  · decide
  · exact hnumeral h
  · decide
  · exact hnumeral h

theorem beginsWithDigit_trimEnd {suffix : List Char} (h : beginsWithDigit suffix = false) :
    beginsWithDigit (trimEnd suffix) = false := by
  obtain ⟨cut, hcut⟩ : trimEnd suffix <+: suffix := List.rdropWhile_prefix Text.isBlank suffix
  rw [← hcut] at h
  rcases htrim : trimEnd suffix with _ | ⟨c, rest⟩
  · rfl
  · rwa [htrim] at h

theorem ofRelease?_padded {blanks suffix : String} (hblanks : Blank blanks.toList)
    (hsuffix : beginsWithDigit suffix.toList = false) (v : Version) (i j k : Nat) :
    ofRelease? (blanks ++ v.padded i j k ++ suffix) = some v := by
  have hne : (v.padded i j k).toList ≠ [] := by simp [padded]
  have htrim : trim (blanks ++ v.padded i j k ++ suffix).toList =
      (v.padded i j k).toList ++ trimEnd suffix.toList := by
    rw [String.toList_append, String.toList_append]
    exact Text.trim_append_of_solid hblanks hne (fun c => isBlank_of_mem_padded) suffix.toList
  have hparts : releaseParts ((v.padded i j k).toList ++ trimEnd suffix.toList) =
      (numeral i v.major.toNat, some (numeral j v.minor.toNat),
        some (numeral k v.patch.toNat ++ trimEnd suffix.toList)) := by
    rw [padded, String.toList_ofList, List.append_assoc, List.cons_append, List.append_assoc,
      List.cons_append]
    exact releaseParts_of_not_mem (point_not_mem_numeral _ _) (point_not_mem_numeral _ _) _
  -- What is left of the suffix after trimming still does not prolong the patch number.
  have hpatch : leadingWord32? (numeral k v.patch.toNat ++ trimEnd suffix.toList) =
      some v.patch := by
    rw [Text.leadingWord32?_append (beginsWithDigit_trimEnd hsuffix), Text.leadingWord32?_numeral]
  rw [ofRelease?, htrim, hparts]
  simp only [Option.bind_some, Text.leadingWord32?_numeral, hpatch, Option.getD_some,
    Option.map_some]

theorem ofRelease?_eq_none_iff (release : String) :
    ofRelease? release = none ↔
      beginsWithDigit (trim release.toList) = false ∨
        2 ^ 32 ≤ Nat.ofDigitChars 10 ((trim release.toList).takeWhile Text.isDigit) 0 := by
  rw [ofRelease?]
  simp only [Option.map_eq_none_iff, leadingWord32?_releaseParts, Text.leadingWord32?_eq_none_iff]

/-- A release that begins with a printed version is read as that version, and no version is read
just when there is no major number, or none of 32 bits. -/
theorem version_of_release :
    (∀ (blanks suffix : String) (v : Version), Blank blanks.toList →
      beginsWithDigit suffix.toList = false →
      ofRelease? (blanks ++ v.text ++ suffix) = some v ∧
        ∀ i j k, ofRelease? (blanks ++ v.padded i j k ++ suffix) = some v) ∧
    ∀ release, ofRelease? release = none ↔
      beginsWithDigit (trim release.toList) = false ∨
        2 ^ 32 ≤ Nat.ofDigitChars 10 ((trim release.toList).takeWhile Text.isDigit) 0 := by
  refine ⟨fun blanks suffix v hblanks hsuffix => ?_, ofRelease?_eq_none_iff⟩
  have hread := ofRelease?_padded hblanks hsuffix v
  exact ⟨v.text_eq_padded ▸ hread 0 0 0, hread⟩

theorem version_of_release_largest :
    Blank "\t ".toList ∧ beginsWithDigit ".7-rc1\u3000".toList = false ∧
      ofRelease? ("\t " ++ (⟨4294967295, 0, 19⟩ : Version).text ++ ".7-rc1\u3000") =
        some ⟨4294967295, 0, 19⟩ ∧
      ofRelease? ("\t " ++ (⟨4294967295, 0, 19⟩ : Version).padded 1 0 2 ++ ".7-rc1\u3000") =
        some ⟨4294967295, 0, 19⟩ := by
  have hblanks : Blank "\t ".toList := by decide
  have hsuffix : beginsWithDigit ".7-rc1\u3000".toList = false := by decide
  obtain ⟨hprinted, hpadded⟩ := version_of_release.1 _ _ ⟨4294967295, 0, 19⟩ hblanks hsuffix
  exact ⟨hblanks, hsuffix, hprinted, hpadded 1 0 2⟩

end Version

end BpfBoot
