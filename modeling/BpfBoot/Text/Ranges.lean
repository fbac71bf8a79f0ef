namespace BpfBoot.Text

abbrev Ranges := List (Nat × Nat)

def Ranges.holds (ranges : Ranges) (c : Char) : Bool :=
  ranges.any fun r => r.1 ≤ c.toNat && c.toNat ≤ r.2

def Ranges.ascend : Ranges → Bool
  | [] => true
  | [last] => last.1 ≤ last.2
  | r :: next :: rest => r.1 ≤ r.2 && r.2 + 1 < next.1 && ascend (next :: rest)

theorem Ranges.holds_iff {ranges : Ranges} {c : Char} :
    ranges.holds c = true ↔ ∃ r ∈ ranges, r.1 ≤ c.toNat ∧ c.toNat ≤ r.2 := by
  simp [holds]

end BpfBoot.Text
