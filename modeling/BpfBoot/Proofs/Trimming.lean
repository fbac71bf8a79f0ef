import Mathlib
import BpfBoot.Text.Blank

namespace BpfBoot.Text

variable {c : Char} {w cs : List Char}

def Blank (w : List Char) : Prop := ∀ c ∈ w, isBlank c = true

instance (w : List Char) : Decidable (Blank w) := List.decidableBAll _ w

theorem isPrefix_trim (cs : List Char) : trim cs <+: trimStart cs :=
  List.rdropWhile_prefix isBlank (trimStart cs)

theorem trimStart_trim (cs : List Char) : trimStart (trim cs) = trim cs := by
  have hstart := List.dropWhile_eq_self_iff.1 (List.dropWhile_idempotent isBlank cs)
  refine List.dropWhile_eq_self_iff.2 fun hpos => ?_
  rw [(isPrefix_trim cs).getElem hpos]
  exact hstart _

theorem trim_trim (cs : List Char) : trim (trim cs) = trim cs := by
  rw [trim, trimStart_trim]
  exact List.rdropWhile_idempotent isBlank (trimStart cs)

theorem Blank.not_mem (h : Blank w) (hc : isBlank c = false) : c ∉ w := by
  intro hmem
  rw [h c hmem] at hc
  cases hc

theorem mem_of_mem_trimStart (h : c ∈ trimStart cs) : c ∈ cs := (List.dropWhile_sublist _).subset h

theorem mem_of_mem_trim (h : c ∈ trim cs) : c ∈ cs :=
  mem_of_mem_trimStart ((isPrefix_trim cs).subset h)

theorem trimEnd_eq_reverse (cs : List Char) : trimEnd cs = (trimStart cs.reverse).reverse := rfl

theorem trimStart_append_cons (hc : isBlank c = false) (front back : List Char) :
    trimStart (front ++ c :: back) = trimStart front ++ c :: back := by
  rw [trimStart, List.dropWhile_append]
  split
  next hfront =>
    rw [trimStart, List.isEmpty_iff.1 hfront, List.dropWhile_cons_of_neg (by simp [hc])]
    rfl
  next => rfl

theorem trimEnd_append_cons (hc : isBlank c = false) (front back : List Char) :
    trimEnd (front ++ c :: back) = front ++ c :: trimEnd back := by
  have hreverse : (front ++ c :: back).reverse = back.reverse ++ c :: front.reverse := by simp
  rw [trimEnd_eq_reverse, hreverse, trimStart_append_cons hc, trimEnd_eq_reverse back]
  simp

theorem trim_append_cons (hc : isBlank c = false) (front back : List Char) :
    trim (front ++ c :: back) = trimStart front ++ c :: trimEnd back := by
  rw [trim, trimStart_append_cons hc, trimEnd_append_cons hc]

theorem trimStart_of_blank (h : Blank w) : trimStart w = [] := List.dropWhile_eq_nil_iff.2 h

theorem trimStart_blank_append (h : Blank w) (cs : List Char) :
    trimStart (w ++ cs) = trimStart cs := List.dropWhile_append_of_pos h

theorem trimEnd_append_blank (h : Blank w) (cs : List Char) : trimEnd (cs ++ w) = trimEnd cs := by
  have hreverse : Blank w.reverse := fun c hc => h c (List.mem_reverse.1 hc)
  rw [trimEnd_eq_reverse, List.reverse_append, trimStart_blank_append hreverse,
    ← trimEnd_eq_reverse]

theorem trim_blank_append (h : Blank w) (cs : List Char) : trim (w ++ cs) = trim cs := by
  rw [trim, trimStart_blank_append h, trim]

theorem trim_append_blank (h : Blank w) (cs : List Char) : trim (cs ++ w) = trim cs := by
  rw [trim, trim, trimStart, trimStart, List.dropWhile_append]
  split
  next hcs => rw [List.isEmpty_iff.1 hcs, ← trimStart, trimStart_of_blank h]
  next => exact trimEnd_append_blank h _

theorem trim_trimStart (cs : List Char) : trim (trimStart cs) = trim cs := by
  rw [trim, trim, trimStart, trimStart, List.dropWhile_idempotent]

theorem trim_trimEnd (cs : List Char) : trim (trimEnd cs) = trim cs := by
  have hblank : Blank (cs.rtakeWhile isBlank) := fun c hc => List.mem_rtakeWhile_imp hc
  have hcut : trimEnd cs ++ cs.rtakeWhile isBlank = cs :=
    List.rdropWhile_append_rtakeWhile
  rw [← trim_append_blank hblank, hcut]

theorem trim_between {w' : List Char} (h : Blank w) (h' : Blank w') (hcs : trim cs = cs) :
    trim (w ++ cs ++ w') = cs := by
  rw [trim_append_blank h', trim_blank_append h, hcs]

theorem head?_trim (cs : List Char) : (trim cs).head? = (trimStart cs).head? := by
  have hidempotent : trimStart (trimStart cs) = trimStart cs := List.dropWhile_idempotent _ _
  rw [trim]
  rcases hcs : trimStart cs with _ | ⟨c, rest⟩
  · rfl
  · rw [hcs] at hidempotent
    have hc : isBlank c = false := by
      simpa using List.dropWhile_eq_self_iff.1 hidempotent
    rw [← List.nil_append (c :: rest), trimEnd_append_cons hc]
    rfl

theorem trimStart_append_of_solid (h : ∀ c ∈ cs, isBlank c = false) (front : List Char) :
    trimStart (front ++ cs) = trimStart front ++ cs := by
  rcases cs with _ | ⟨c, cs⟩
  · rw [List.append_nil, List.append_nil]
  · exact trimStart_append_cons (h c List.mem_cons_self) front cs

theorem trimEnd_append_of_solid (h : ∀ c ∈ cs, isBlank c = false) (back : List Char) :
    trimEnd (cs ++ back) = cs ++ trimEnd back := by
  have hreverse : ∀ c ∈ cs.reverse, isBlank c = false := fun c hc => h c (List.mem_reverse.1 hc)
  rw [trimEnd_eq_reverse, List.reverse_append, trimStart_append_of_solid hreverse,
    List.reverse_append, List.reverse_reverse, ← trimEnd_eq_reverse]

/-- Blanks in front of such a text and at the end of what follows it are all that is cut off. -/
theorem trim_append_of_solid {w : List Char} (hw : Blank w) (hne : cs ≠ [])
    (h : ∀ c ∈ cs, isBlank c = false) (back : List Char) :
    trim (w ++ cs ++ back) = cs ++ trimEnd back := by
  have hstart : trimStart (cs ++ back) = cs ++ back := by
    rcases cs with _ | ⟨c, cs⟩
    · exact absurd rfl hne
    · exact List.dropWhile_cons_of_neg (by rw [h c List.mem_cons_self]; exact Bool.false_ne_true)
  rw [List.append_assoc, trim_blank_append hw, trim, hstart, trimEnd_append_of_solid h]

end BpfBoot.Text
