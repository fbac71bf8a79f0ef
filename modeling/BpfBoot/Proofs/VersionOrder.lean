import Mathlib
import BpfBoot.Kernel.Version

namespace BpfBoot

namespace Version

variable {u v w : Version}

def key (v : Version) : ℕ ×ₗ ℕ ×ₗ ℕ :=
  toLex (v.major.toNat, toLex (v.minor.toNat, v.patch.toNat))

theorem key_injective : Function.Injective key := by
  rintro ⟨major, minor, patch⟩ ⟨major', minor', patch'⟩ h
  simp only [key, toLex_inj, Prod.mk.injEq, UInt32.toNat_inj] at h
  obtain ⟨rfl, rfl, rfl⟩ := h
  rfl

theorem atLeast_iff (v least : Version) :
    v.atLeast least = true ↔ least.major < v.major ∨ least.major = v.major ∧
      (least.minor < v.minor ∨ least.minor = v.minor ∧ least.patch ≤ v.patch) := by
  simp only [atLeast, Version.compare, Ordering.isGE_iff_ne_lt, Ordering.then_eq_lt,
    Std.compare_eq_lt, Std.compare_eq_iff_eq, UInt32.lt_iff_toNat_lt, UInt32.le_iff_toNat_le,
    ← UInt32.toNat_inj]
  omega

theorem atLeast_of_minor (v : Version) (major minor : UInt32) :
    v.atLeast ⟨major, minor, 0⟩ = true ↔ major < v.major ∨ v.major = major ∧ minor ≤ v.minor := by
  simp only [atLeast_iff, UInt32.lt_iff_toNat_lt, UInt32.le_iff_toNat_le, ← UInt32.toNat_inj]
  have : (0 : UInt32).toNat = 0 := rfl
  omega

theorem atLeast_iff_key_le : v.atLeast w = true ↔ w.key ≤ v.key := by
  simp only [atLeast_iff, key, Prod.Lex.toLex_le_toLex, UInt32.lt_iff_toNat_lt,
    UInt32.le_iff_toNat_le, ← UInt32.toNat_inj]

theorem atLeast_trans (h : u.atLeast v = true) (h' : v.atLeast w = true) : u.atLeast w = true := by
  rw [atLeast_iff_key_le] at h h' ⊢
  exact h'.trans h

section Codes

variable {c d : UInt32}

def ofCode (c : UInt32) : Version := ⟨c >>> 16, (c >>> 8) % 256, c % 256⟩

/-- What a code keeps of a version: the lower half of the major number, and of the other two no more
than 255. -/
def kept (v : Version) : Version := ⟨v.major % 65536, min v.minor 255, min v.patch 255⟩

structure Fits (v : Version) : Prop where
  major : v.major < 65536
  minor : v.minor ≤ 255
  patch : v.patch ≤ 255

theorem key_ofCode (c : UInt32) :
    (ofCode c).key = toLex (c.toNat / 65536, toLex (c.toNat / 256 % 256, c.toNat % 256)) := by
  have hmajor : (c >>> 16).toNat = c.toNat / 65536 := Nat.shiftRight_eq_div_pow _ _
  have hminor : (c >>> 8).toNat = c.toNat / 256 := Nat.shiftRight_eq_div_pow _ _
  rw [key, ofCode, UInt32.toNat_mod, UInt32.toNat_mod, hmajor, hminor]
  rfl

theorem key_ofCode_le_iff : (ofCode c).key ≤ (ofCode d).key ↔ c ≤ d := by
  simp only [key_ofCode, Prod.Lex.toLex_le_toLex, UInt32.le_iff_toNat_le]
  omega

theorem ofCode_injective : Function.Injective ofCode := by
  intro c d h
  apply UInt32.le_antisymm
  · exact key_ofCode_le_iff.1 (h ▸ le_rfl)
  · exact key_ofCode_le_iff.1 (h ▸ le_rfl)

theorem toNat_min_octet (n : UInt32) : (min n 255).toNat = min n.toNat 255 :=
  UInt32.toNat_min n 255

theorem key_kept (v : Version) :
    v.kept.key =
      toLex (v.major.toNat % 65536, toLex (min v.minor.toNat 255, min v.patch.toNat 255)) := by
  rw [key, kept, UInt32.toNat_mod, toNat_min_octet, toNat_min_octet]
  rfl

theorem Fits.kept_eq (h : v.Fits) : v.kept = v := by
  have hmajor : v.major.toNat < 65536 := UInt32.lt_iff_toNat_lt.1 h.major
  have hminor : v.minor.toNat ≤ 255 := UInt32.le_iff_toNat_le.1 h.minor
  have hpatch : v.patch.toNat ≤ 255 := UInt32.le_iff_toNat_le.1 h.patch
  apply key_injective
  rw [key_kept, key, Nat.mod_eq_of_lt hmajor, min_eq_left hminor, min_eq_left hpatch]

theorem or_shiftLeft_eq_add {major minor patch : ℕ} (hminor : minor < 2 ^ 8)
    (hpatch : patch < 2 ^ 8) :
    major <<< 16 ||| minor <<< 8 ||| patch = major * 65536 + (minor * 256 + patch) := by
  have hlower : minor <<< 8 + patch < 2 ^ 16 := by
    rw [Nat.shiftLeft_eq]
    omega
  calc major <<< 16 ||| minor <<< 8 ||| patch
      = major <<< 16 ||| (minor <<< 8 + patch) := by
        rw [Nat.or_assoc, Nat.shiftLeft_add_eq_or_of_lt hpatch]
    _ = major <<< 16 + (minor <<< 8 + patch) := (Nat.shiftLeft_add_eq_or_of_lt hlower major).symm
    _ = major * 65536 + (minor * 256 + patch) := by rw [Nat.shiftLeft_eq, Nat.shiftLeft_eq]

theorem toNat_code (v : Version) :
    v.code.toNat =
      v.major.toNat % 65536 * 65536 + (min v.minor.toNat 255 * 256 + min v.patch.toNat 255) := by
  have hminor : min v.minor.toNat 255 < 2 ^ 8 := by omega
  have hpatch : min v.patch.toNat 255 < 2 ^ 8 := by omega
  have hupper : (v.major <<< 16).toNat = (v.major.toNat % 65536) <<< 16 := by
    rw [UInt32.toNat_shiftLeft, Nat.shiftLeft_eq, Nat.shiftLeft_eq]
    exact Nat.mul_mod_mul_right 65536 v.major.toNat 65536
  have hmiddle : (min v.minor 255 <<< 8).toNat = min v.minor.toNat 255 <<< 8 := by
    rw [UInt32.toNat_shiftLeft, toNat_min_octet, Nat.shiftLeft_eq, Nat.shiftLeft_eq]
    have hlt : min v.minor.toNat 255 * 256 < 2 ^ 32 := by omega
    exact Nat.mod_eq_of_lt hlt
  rw [code, UInt32.toNat_or, UInt32.toNat_or, hupper, hmiddle, toNat_min_octet,
    or_shiftLeft_eq_add hminor hpatch]

theorem ofCode_code (v : Version) : ofCode v.code = v.kept := by
  apply key_injective
  rw [key_ofCode, key_kept, toNat_code]
  simp only [toLex_inj, Prod.mk.injEq]
  omega

theorem code_le_code_iff : v.code ≤ w.code ↔ v.kept.key ≤ w.kept.key := by
  rw [← key_ofCode_le_iff, ofCode_code, ofCode_code]

/-- A minor number that has no room in its field gives way to the patch number. -/
example :
    (⟨4, 256, 0⟩ : Version).atLeast ⟨4, 255, 1⟩ = true ∧
      (⟨4, 256, 0⟩ : Version).code < (⟨4, 255, 1⟩ : Version).code := by
  decide

theorem code_eq_code_iff : v.code = w.code ↔ v.kept = w.kept := by
  rw [← ofCode_injective.eq_iff, ofCode_code, ofCode_code]

/-- The fields of a code hold the major number modulo `2 ^ 16` and the other two cut at 255, and
codes are in the lexicographic order of these three. Versions of which nothing is lost compare as
their codes do, and have different codes. -/
theorem order_of_code :
    (∀ v : Version, v.code >>> 16 = v.major % 65536 ∧ (v.code >>> 8) % 256 = min v.minor 255 ∧
      v.code % 256 = min v.patch 255) ∧
    (∀ v w : Version, v.code ≤ w.code ↔ v.kept.key ≤ w.kept.key) ∧
    ∀ v w : Version, v.Fits → w.Fits →
      (v.atLeast w = true ↔ w.code ≤ v.code) ∧ (v.code = w.code ↔ v = w) := by
  refine ⟨fun v => ?_, fun v w => code_le_code_iff, fun v w hv hw => ⟨?_, ?_⟩⟩
  · exact Version.mk.inj (ofCode_code v)
  · rw [atLeast_iff_key_le, code_le_code_iff, hv.kept_eq, hw.kept_eq]
  · rw [code_eq_code_iff, hv.kept_eq, hw.kept_eq]

theorem order_of_code_topmost :
    let v : Version := ⟨65535, 255, 0⟩
    let w : Version := ⟨65535, 254, 255⟩
    v.Fits ∧ w.Fits ∧ (v.atLeast w = true ∧ w.code ≤ v.code) ∧ v.code ≠ w.code := by
  intro v w
  have hv : v.Fits := ⟨by decide, by decide, by decide⟩
  have hw : w.Fits := ⟨by decide, by decide, by decide⟩
  obtain ⟨horder, heq⟩ := order_of_code.2.2 v w hv hw
  have hnewer : v.atLeast w = true := by decide
  exact ⟨hv, hw, ⟨hnewer, horder.1 hnewer⟩, fun h => absurd (heq.1 h) (by decide)⟩

end Codes

end Version

end BpfBoot
