import BpfBoot.Text.Utf8

namespace BpfBoot.Object

open Text (Octets)

def word : Octets → Nat
  | [] => 0
  | b :: rest => b.toNat + 256 * word rest

def wordOctets : Nat → Nat → Octets
  | 0, _ => []
  | size + 1, n => UInt8.ofNat n :: wordOctets size (n / 256)

@[simp] theorem length_wordOctets (size n : Nat) : (wordOctets size n).length = size := by
  induction size generalizing n with
  | zero => rfl
  | succ size ih => simp [wordOctets, ih]

theorem word_wordOctets (size n : Nat) : word (wordOctets size n) = n % Nat.pow 256 size := by
  induction size generalizing n with
  | zero => simp [wordOctets, word, Nat.mod_one]
  | succ size ih =>
    rw [wordOctets, word, ih, Nat.pow_eq, Nat.pow_eq, Nat.pow_succ', Nat.mod_mul]
    simp

end BpfBoot.Object
