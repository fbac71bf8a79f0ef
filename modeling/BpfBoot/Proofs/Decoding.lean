import Mathlib
import BpfBoot.Load.Sweep

namespace BpfBoot

namespace Text

def DecodeState.Proper : DecodeState → Prop
  | .between => True
  | .inside owed low _ code =>
    0x80 ≤ low ∧ 128 ≤ (64 * code + (low.toNat - 0x80)) * 64 ^ (owed - 1)

theorem proper_decodeFirst (b : UInt8) : (decodeFirst b).1.Proper := by
  unfold decodeFirst
  repeat' split
  all_goals
    simp only [DecodeState.Proper, UInt8.le_iff_toNat_le, UInt8.lt_iff_toNat_lt,
      ← UInt8.toNat_inj, UInt8.reduceToNat, Nat.not_lt] at *
    try omega

theorem proper_decodeStep {st : DecodeState} (h : st.Proper) (b : UInt8) :
    (decodeStep st b).1.Proper := by
  cases st with
  | between => exact proper_decodeFirst b
  | inside owed low high code =>
      obtain ⟨hlow, hcode⟩ := h
      rw [decodeStep]
      split
      · next hb =>
        split
        · trivial
        · next howed =>
          obtain ⟨rest, rfl⟩ : ∃ rest, owed = rest + 2 := ⟨owed - 2, by omega⟩
          simp only [Bool.and_eq_true, decide_eq_true_eq, UInt8.le_iff_toNat_le,
            UInt8.reduceToNat] at hb hlow
          refine ⟨by decide, Nat.le_trans hcode ?_⟩
          have hnext : 64 * code + (low.toNat - 0x80) ≤ 64 * code + (b.toNat - 0x80) := by omega
          calc (64 * code + (low.toNat - 0x80)) * 64 ^ (rest + 2 - 1)
              = 64 * (64 * code + (low.toNat - 0x80)) * 64 ^ rest := by
                rw [show rest + 2 - 1 = rest + 1 by omega, Nat.pow_succ]
                simp only [Nat.mul_comm, Nat.mul_left_comm, Nat.mul_assoc]
            _ ≤ _ := Nat.mul_le_mul_right _ (by simp; omega)
      · exact proper_decodeFirst b

theorem decodeFrom_cons (st : DecodeState) (b : UInt8) (rest : Octets) :
    decodeFrom st (b :: rest) = (decodeStep st b).2 ++ decodeFrom (decodeStep st b).1 rest := by
  rw [decodeFrom]

theorem decodeFrom_snoc_ascii {st : DecodeState} (h : st.Proper) {b : UInt8} (hb : b < 0x80)
    (bytes : Octets) :
    decodeFrom st (bytes ++ [b]) = decodeFrom st bytes ++ [some (Char.ofNat b.toNat)] := by
  induction bytes generalizing st with
  | nil =>
      cases st with
      | between => simp [decodeFrom, decodeStep, decodeFirst, hb]
      | inside owed low high code =>
          have hlow : ¬low ≤ b := fun hle => by
            have := h.1
            simp only [UInt8.le_iff_toNat_le, UInt8.lt_iff_toNat_lt] at *
            omega
          simp [decodeFrom, decodeStep, decodeFirst, hb, hlow]
  | cons first rest ih =>
      rw [List.cons_append, decodeFrom_cons, decodeFrom_cons, ih (proper_decodeStep h first),
        List.append_assoc]

def IsWide (p : Piece) : Prop := ∀ c, p = some c → ∃ code, 128 ≤ code ∧ c = Char.ofNat code

theorem isWide_none : IsWide none := fun _ h => nomatch h

theorem decodeFirst_wide {b : UInt8} (hb : ¬b < 0x80) :
    (decodeFirst b).2 ++ decodeFrom (decodeFirst b).1 [] = [none] := by
  unfold decodeFirst
  rw [if_neg hb]
  repeat' split
  all_goals rfl

theorem decodeFrom_snoc_wide {st : DecodeState} (h : st.Proper) {b : UInt8} (hb : ¬b < 0x80)
    (bytes : Octets) :
    ∃ before last, decodeFrom st (bytes ++ [b]) = before ++ [last] ∧ IsWide last := by
  induction bytes generalizing st with
  | nil =>
      rw [List.nil_append, decodeFrom_cons]
      cases st with
      | between => exact ⟨[], none, decodeFirst_wide hb, isWide_none⟩
      | inside owed low high code =>
          obtain ⟨hlow, hcode⟩ := h
          -- The octet ends the character, goes on with it, or leaves it ill-formed and is read anew.
          by_cases hrange : (decide (low ≤ b) && decide (b ≤ high)) = true
          · by_cases howed : owed ≤ 1
            · refine ⟨[], some (Char.ofNat (64 * code + (b.toNat - 0x80))), ?_, ?_⟩
              · simp [decodeStep, hrange, howed, decodeFrom]
              · intro c hc
                rw [Nat.sub_eq_zero_of_le howed] at hcode
                simp only [Bool.and_eq_true, decide_eq_true_eq, UInt8.le_iff_toNat_le] at hrange
                exact ⟨_, by omega, (Option.some.inj hc).symm⟩
            · exact ⟨[], none, by simp [decodeStep, hrange, howed, decodeFrom], isWide_none⟩
          · refine ⟨[none], none, ?_, isWide_none⟩
            rw [decodeStep, if_neg hrange]
            exact congrArg (none :: ·) (decodeFirst_wide hb)
  | cons first rest ih =>
      obtain ⟨before, last, hlast, hwide⟩ := ih (proper_decodeStep h first)
      refine ⟨(decodeStep st first).2 ++ before, last, ?_, hwide⟩
      rw [List.cons_append, decodeFrom_cons, hlast, List.append_assoc]

theorem toNat_ofNat (code : Nat) :
    (Char.ofNat code).toNat = if code.isValidChar then code else 0 := by
  unfold Char.ofNat
  split <;> rfl

theorem toNat_ofNat_ascii {b : UInt8} (hb : b < 0x80) : (Char.ofNat b.toNat).toNat = b.toNat := by
  have hlt : b.toNat < 128 := UInt8.lt_iff_toNat_lt.1 hb
  rw [toNat_ofNat, if_pos (Or.inl (by omega))]

theorem ne_of_isWide {p : Piece} (h : IsWide p) {b : UInt8} (hb : b < 0x80) (hzero : b ≠ 0) :
    p.getD '\uFFFD' ≠ Char.ofNat b.toNat := by
  have hlt : b.toNat < 128 := UInt8.lt_iff_toNat_lt.1 hb
  have hpos : b.toNat ≠ 0 := fun h0 => hzero (UInt8.toNat_inj.1 h0)
  intro heq
  have hcode := congrArg Char.toNat heq
  rw [toNat_ofNat_ascii hb] at hcode
  cases p with
  | none =>
      have : (0xFFFD : Nat) = b.toNat := hcode
      omega
  | some c =>
      obtain ⟨code, hwide, rfl⟩ := h c rfl
      rw [Option.getD_some, toNat_ofNat] at hcode
      split at hcode <;> omega

/-- A decoded text ends in an ASCII character just when its octets do. -/
theorem decodeLossy_eq_snoc_iff {b : UInt8} (hb : b < 0x80) (hzero : b ≠ 0) {text : List Char}
    {bytes : Octets} :
    (decodeLossy bytes).toList = text ++ [Char.ofNat b.toNat] ↔
      ∃ front, bytes = front ++ [b] ∧ (decodeLossy front).toList = text := by
  simp only [decodeLossy, pieces, String.toList_ofList]
  rcases List.eq_nil_or_concat bytes with rfl | ⟨front, last, rfl⟩
  · simp [decodeFrom]
  have hproper : DecodeState.between.Proper := trivial
  rw [List.concat_eq_append]
  -- A wide octet at the end closes a piece that is no ASCII character, so that both sides fail.
  by_cases hlast : last < 0x80
  · rw [decodeFrom_snoc_ascii hproper hlast, List.map_append, List.map_singleton,
      Option.getD_some]
    constructor
    · intro h
      obtain ⟨htext, hsame⟩ := List.append_inj' h rfl
      have hcode := congrArg Char.toNat (List.singleton_inj.1 hsame)
      rw [toNat_ofNat_ascii hb, toNat_ofNat_ascii hlast] at hcode
      exact ⟨front, by rw [UInt8.toNat_inj.1 hcode], htext⟩
    · rintro ⟨other, hother, htext⟩
      obtain ⟨rfl, hsame⟩ := List.append_inj' hother rfl
      rw [htext, List.singleton_inj.1 hsame]
  · obtain ⟨before, piece, hpiece, hwide⟩ := decodeFrom_snoc_wide hproper hlast front
    rw [hpiece, List.map_append, List.map_singleton]
    refine iff_of_false (fun h => ?_) ?_
    · exact ne_of_isWide hwide hb hzero (List.singleton_inj.1 (List.append_inj' h rfl).2)
    · rintro ⟨other, hother, -⟩
      obtain ⟨-, hsame⟩ := List.append_inj' hother rfl
      rw [List.singleton_inj.1 hsame] at hlast
      exact hlast hb

theorem suffix_decodeLossy_iff {b : UInt8} (hb : b < 0x80) (hzero : b ≠ 0) {text : List Char}
    {bytes : Octets} :
    text ++ [Char.ofNat b.toNat] <:+ (decodeLossy bytes).toList ↔
      ∃ front, bytes = front ++ [b] ∧ text <:+ (decodeLossy front).toList := by
  constructor
  · rintro ⟨before, h⟩
    rw [← List.append_assoc] at h
    obtain ⟨front, hbytes, hfront⟩ := (decodeLossy_eq_snoc_iff hb hzero).1 h.symm
    exact ⟨front, hbytes, before, hfront.symm⟩
  · rintro ⟨front, hbytes, before, hfront⟩
    refine ⟨before, ?_⟩
    rw [← List.append_assoc, (decodeLossy_eq_snoc_iff hb hzero).2 ⟨front, hbytes, hfront.symm⟩]

theorem decodeLossy_eq_nil_iff {bytes : Octets} : (decodeLossy bytes).toList = [] ↔ bytes = [] := by
  rcases List.eq_nil_or_concat bytes with rfl | ⟨front, last, rfl⟩
  · simp [decodeLossy, pieces, decodeFrom]
  have hproper : DecodeState.between.Proper := trivial
  simp only [decodeLossy, pieces, String.toList_ofList, List.concat_eq_append]
  by_cases hlast : last < 0x80
  · rw [decodeFrom_snoc_ascii hproper hlast]
    simp
  · obtain ⟨before, piece, hpiece, -⟩ := decodeFrom_snoc_wide hproper hlast front
    rw [hpiece]
    simp

/-- Only its own octets decode to an ASCII text. -/
theorem decodeLossy_eq_ascii_iff {ascii : Octets} (h : ∀ b ∈ ascii, b < 0x80 ∧ b ≠ 0)
    {bytes : Octets} :
    (decodeLossy bytes).toList = ascii.map (fun b => Char.ofNat b.toNat) ↔ bytes = ascii := by
  induction ascii using List.reverseRecOn generalizing bytes with
  | nil => exact decodeLossy_eq_nil_iff
  | append_singleton front b ih =>
      obtain ⟨hfront, hb⟩ := List.forall_mem_append.1 h
      obtain ⟨hb, hzero⟩ := hb b (List.mem_singleton_self b)
      rw [List.map_append, List.map_singleton, decodeLossy_eq_snoc_iff hb hzero]
      constructor
      · rintro ⟨other, rfl, hother⟩
        rw [(ih hfront).1 hother]
      · rintro rfl
        exact ⟨front, rfl, (ih hfront).2 rfl⟩

end Text

namespace Load

open Text

def rawSuffix : Octets := [0x2E, 0x6F]

/-- Decoding neither makes a name one of an object nor keeps it from being one. -/
theorem isObjectName_iff {name : Path.Name} : isObjectName name = true ↔ rawSuffix <:+ name := by
  have hsuffix : suffix.toList =
      ([] ++ [Char.ofNat (0x2E : UInt8).toNat]) ++ [Char.ofNat (0x6F : UInt8).toNat] := rfl
  rw [isObjectName, List.isSuffixOf_iff_suffix, hsuffix,
    suffix_decodeLossy_iff (by decide) (by decide)]
  simp only [suffix_decodeLossy_iff (b := 0x2E) (by decide) (by decide)]
  constructor
  · rintro ⟨_, rfl, front, rfl, -⟩
    exact ⟨front, by simp [rawSuffix]⟩
  · rintro ⟨front, rfl⟩
    exact ⟨front ++ [0x2E], by simp [rawSuffix], front, rfl, List.nil_suffix⟩

end Load

end BpfBoot
