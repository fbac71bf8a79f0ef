import Mathlib
import BpfBoot.Proofs.Decoding

namespace BpfBoot.Text

theorem toNat_tail {d : Nat} (hd : d < 64) : (UInt8.ofNat (d + 128)).toNat = d + 128 := by
  rw [UInt8.toNat_ofNat']
  omega

section Tails

variable {low high : UInt8} {d : Nat} (hd : d < 64) (hlow : low.toNat ≤ d + 128)
  (hhigh : d + 128 ≤ high.toNat) (code : Nat) (rest : Octets)

include hd hlow hhigh

theorem decodeFrom_tail (owed : Nat) :
    decodeFrom (.inside (owed + 2) low high code) (UInt8.ofNat (d + 128) :: rest) =
      decodeFrom (.inside (owed + 1) 0x80 0xBF (64 * code + d)) rest := by
  have hrange : (decide (low ≤ UInt8.ofNat (d + 128)) && decide (UInt8.ofNat (d + 128) ≤ high)) =
      true := by
    simp only [Bool.and_eq_true, decide_eq_true_eq, UInt8.le_iff_toNat_le, toNat_tail hd]
    exact ⟨hlow, hhigh⟩
  rw [decodeFrom_cons, decodeStep, if_pos hrange, if_neg (by omega), toNat_tail hd]
  simp

theorem decodeFrom_lastTail :
    decodeFrom (.inside 1 low high code) (UInt8.ofNat (d + 128) :: rest) =
      some (Char.ofNat (64 * code + d)) :: decodeFrom .between rest := by
  have hrange : (decide (low ≤ UInt8.ofNat (d + 128)) && decide (UInt8.ofNat (d + 128) ≤ high)) =
      true := by
    simp only [Bool.and_eq_true, decide_eq_true_eq, UInt8.le_iff_toNat_le, toNat_tail hd]
    exact ⟨hlow, hhigh⟩
  rw [decodeFrom_cons, decodeStep, if_pos hrange, if_pos (Nat.le_refl 1), toNat_tail hd]
  simp

end Tails

theorem toNat_lead {d : Nat} (hd : d < 256) : (UInt8.ofNat d).toNat = d := by
  rw [UInt8.toNat_ofNat']
  omega

theorem decodeFirst_two {d : Nat} (hlow : 2 ≤ d) (hhigh : d < 32) :
    decodeFirst (UInt8.ofNat (d + 192)) = (.inside 1 0x80 0xBF d, []) := by
  have hd : (UInt8.ofNat (d + 192)).toNat = d + 192 := toNat_lead (by omega)
  simp only [decodeFirst, UInt8.lt_iff_toNat_lt, hd, UInt8.reduceToNat]
  rw [if_neg (by omega), if_neg (by omega), if_pos (by omega)]
  simp

theorem decodeFirst_three {d : Nat} (hhigh : d < 16) :
    ∃ low high, decodeFirst (UInt8.ofNat (d + 224)) = (.inside 2 low high d, []) ∧
      low.toNat = (if d = 0 then 0xA0 else 0x80) ∧ high.toNat = if d = 13 then 0x9F else 0xBF := by
  interval_cases d <;> exact ⟨_, _, rfl, rfl, rfl⟩

theorem decodeFirst_four {d : Nat} (hhigh : d < 5) :
    ∃ low high, decodeFirst (UInt8.ofNat (d + 240)) = (.inside 3 low high d, []) ∧
      low.toNat = (if d = 0 then 0x90 else 0x80) ∧ high.toNat = if d = 4 then 0x8F else 0xBF := by
  interval_cases d <;> exact ⟨_, _, rfl, rfl, rfl⟩

section Characters

variable {v : Nat} (rest : Octets)

theorem decodeFrom_one (h : v < 128) :
    decodeFrom .between (UInt8.ofNat v :: rest) = some (Char.ofNat v) :: decodeFrom .between rest := by
  have hb : (UInt8.ofNat v).toNat = v := toNat_lead (by omega)
  have hlow : UInt8.ofNat v < 0x80 := by
    rw [UInt8.lt_iff_toNat_lt, hb]
    exact h
  simp [decodeFrom_cons, decodeStep, decodeFirst, hlow, hb]

theorem decodeFrom_two (hlow : 128 ≤ v) (hhigh : v < 2048) :
    decodeFrom .between (UInt8.ofNat (v / 64 % 32 + 192) :: UInt8.ofNat (v % 64 + 128) :: rest) =
      some (Char.ofNat v) :: decodeFrom .between rest := by
  have hv : 64 * (v / 64 % 32) + v % 64 = v := by omega
  have htail : 128 ≤ v % 64 + 128 ∧ v % 64 + 128 ≤ 191 := by omega
  rw [decodeFrom_cons, decodeStep, decodeFirst_two (by omega) (by omega), List.nil_append,
    decodeFrom_lastTail (by omega) htail.1 htail.2, hv]

theorem decodeFrom_three (hlow : 2048 ≤ v) (hhigh : v < 65536)
    (hvalid : v < 0xD800 ∨ 0xDFFF < v) :
    decodeFrom .between (UInt8.ofNat (v / 4096 % 16 + 224) :: UInt8.ofNat (v / 64 % 64 + 128) ::
        UInt8.ofNat (v % 64 + 128) :: rest) =
      some (Char.ofNat v) :: decodeFrom .between rest := by
  have hv : 64 * (64 * (v / 4096 % 16) + v / 64 % 64) + v % 64 = v := by omega
  have htail : 128 ≤ v % 64 + 128 ∧ v % 64 + 128 ≤ 191 := by omega
  obtain ⟨low, high, hlead, hl, hh⟩ := decodeFirst_three (d := v / 4096 % 16) (by omega)
  have hsecond : low.toNat ≤ v / 64 % 64 + 128 ∧ v / 64 % 64 + 128 ≤ high.toNat := by
    rw [hl, hh]
    constructor <;> split <;> omega
  rw [decodeFrom_cons, decodeStep, hlead, List.nil_append,
    decodeFrom_tail (by omega) hsecond.1 hsecond.2,
    decodeFrom_lastTail (by omega) htail.1 htail.2, hv]

theorem decodeFrom_four (hlow : 65536 ≤ v) (hhigh : v < 0x110000) :
    decodeFrom .between (UInt8.ofNat (v / 262144 % 8 + 240) ::
        UInt8.ofNat (v / 4096 % 64 + 128) :: UInt8.ofNat (v / 64 % 64 + 128) ::
        UInt8.ofNat (v % 64 + 128) :: rest) =
      some (Char.ofNat v) :: decodeFrom .between rest := by
  have hv : 64 * (64 * (64 * (v / 262144 % 8) + v / 4096 % 64) + v / 64 % 64) + v % 64 = v := by
    omega
  have htail (d : Nat) : 128 ≤ d % 64 + 128 ∧ d % 64 + 128 ≤ 191 := by omega
  obtain ⟨low, high, hlead, hl, hh⟩ := decodeFirst_four (d := v / 262144 % 8) (by omega)
  have hsecond : low.toNat ≤ v / 4096 % 64 + 128 ∧ v / 4096 % 64 + 128 ≤ high.toNat := by
    rw [hl, hh]
    constructor <;> split <;> omega
  rw [decodeFrom_cons, decodeStep, hlead, List.nil_append,
    decodeFrom_tail (by omega) hsecond.1 hsecond.2,
    decodeFrom_tail (by omega) (htail _).1 (htail _).2,
    decodeFrom_lastTail (by omega) (htail v).1 (htail v).2, hv]

end Characters

theorem decodeFrom_encodeChar (c : Char) (rest : Octets) :
    decodeFrom .between (String.utf8EncodeChar c ++ rest) = some c :: decodeFrom .between rest := by
  have hvalid : c.val.toNat < 0xD800 ∨ 0xDFFF < c.val.toNat ∧ c.val.toNat < 0x110000 := c.valid
  conv_rhs => rw [← Char.ofNat_toNat c, Char.toNat]
  unfold String.utf8EncodeChar
  dsimp only
  split
  · exact decodeFrom_one rest (by omega)
  split
  · exact decodeFrom_two rest (by omega) (by omega)
  split
  · exact decodeFrom_three rest (by omega) (by omega) (by omega)
  · exact decodeFrom_four rest (by omega) (by omega)

theorem decodeFrom_flatMap (cs : List Char) :
    decodeFrom .between (cs.flatMap String.utf8EncodeChar) = cs.map some := by
  induction cs with
  | nil => rfl
  | cons c cs ih => rw [List.flatMap_cons, decodeFrom_encodeChar, ih, List.map_cons]

theorem decodeLossy_encode (s : String) : decodeLossy (encode s) = s := by
  rw [decodeLossy, pieces, encode, decodeFrom_flatMap, List.map_map]
  simp

theorem zero_ne_ofNat {d : Nat} (hpos : 0 < d) (hd : d < 256) : 0 ≠ UInt8.ofNat d := by
  intro h
  have hzero := congrArg UInt8.toNat h
  rw [toNat_lead hd, UInt8.toNat_zero] at hzero
  omega

theorem zero_notMem_encodeChar {c : Char} (h : c ≠ Char.ofNat 0) :
    0 ∉ String.utf8EncodeChar c := by
  have hc : c.val.toNat ≠ 0 := fun hzero => h (by rw [← hzero]; exact (Char.ofNat_toNat c).symm)
  unfold String.utf8EncodeChar
  dsimp only
  repeat' split
  all_goals
    simp only [List.mem_cons, List.not_mem_nil, or_false, not_or]
    repeat' apply And.intro
    all_goals exact zero_ne_ofNat (by omega) (by omega)

theorem zero_notMem_encode {s : String} (h : Char.ofNat 0 ∉ s.toList) : 0 ∉ encode s := by
  intro hzero
  obtain ⟨c, hc, hmem⟩ := List.mem_flatMap.1 hzero
  exact zero_notMem_encodeChar (fun heq => h (heq ▸ hc)) hmem

end BpfBoot.Text
