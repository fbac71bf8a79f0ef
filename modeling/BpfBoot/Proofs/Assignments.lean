import Mathlib
import BpfBoot.Kernel.Properties
import BpfBoot.Proofs.Trimming

namespace BpfBoot

namespace Properties

variable {line : List Char} {key value : String}

inductive Assigns : List Char → String → String → Prop
  | mk {line front back : List Char} (hcut : Text.trim line = front ++ '=' :: back)
      (hfirst : '=' ∉ front) (hcomment : front.head? ≠ some '#') :
      Assigns line (String.ofList (Text.trim front)) (String.ofList (Text.trim back))

theorem assignment?_eq_some_iff : assignment? line = some (key, value) ↔ Assigns line key value := by
  constructor
  · intro h
    rw [assignment?] at h
    split at h
    · cases h
    · cases h
    next hblank hcomment =>
      obtain ⟨⟨front, back⟩, hcut, heq⟩ := Option.map_eq_some_iff.1 h
      obtain ⟨hline, hfirst⟩ := Text.eq_append_of_splitOnce hcut
      cases heq
      refine .mk hline hfirst fun hhead => ?_
      obtain ⟨rest, rfl⟩ := List.head?_eq_some_iff.1 hhead
      exact hcomment _ hline
  · rintro ⟨hcut, hfirst, hcomment⟩
    rename_i front back
    rw [assignment?, hcut]
    split
    next hblank => simp at hblank
    next rest hhead =>
      rcases front with _ | ⟨c, front⟩
      · cases hhead
      · exact absurd (congrArg some (List.cons.inj hhead).1) hcomment
    next => rw [Text.splitOnce_of_not_mem hfirst]; rfl

theorem Assigns.trim_value (h : Assigns line key value) :
    Text.trim value.toList = value.toList := by
  obtain ⟨hcut, hfirst, hcomment⟩ := h
  rw [String.toList_ofList, Text.trim_trim]

def valueFor? (key : String) (line : List Char) : Option String :=
  (assignment? line).bind fun a => if a.1 = key then some a.2 else none

theorem valueFor?_eq_some_iff : valueFor? key line = some value ↔ Assigns line key value := by
  rw [← assignment?_eq_some_iff, valueFor?]
  rcases assignment? line with _ | ⟨name, given⟩
  · simp
  · by_cases hname : name = key <;> simp [hname]

theorem valueFor?_eq_none_iff : valueFor? key line = none ↔ ∀ value, ¬Assigns line key value := by
  simp only [Option.eq_none_iff_forall_ne_some, ne_eq, valueFor?_eq_some_iff]

theorem get?_foldl_put (lines : List (List Char)) (key : String) (p : Properties) :
    ((lines.filterMap assignment?).foldl (fun p a => p.put a.1 a.2) p).get? key =
      (lines.reverse.findSome? (valueFor? key)).or (p.get? key) := by
  induction lines generalizing p with
  | nil => rfl
  | cons line lines ih =>
      rw [List.reverse_cons, List.findSome?_append, Option.or_assoc]
      rcases h : assignment? line with _ | ⟨name, given⟩
      · rw [List.filterMap_cons_none h, ih]
        simp [valueFor?, h]
      · rw [List.filterMap_cons_some h, List.foldl_cons, ih, get?_put]
        by_cases hname : name = key
        · simp [valueFor?, h, hname]
        · simp [valueFor?, h, hname, Ne.symm hname]

theorem get?_ofText (text key : String) :
    (ofText text).get? key = (Text.lines text.toList).reverse.findSome? (valueFor? key) := by
  rw [ofText, ofAssignments, assignments, get?_foldl_put]
  exact Option.or_none

def LastAssigns (text key value : String) : Prop :=
  ∃ before line after, Text.lines text.toList = before ++ line :: after ∧ Assigns line key value ∧
    ∀ later ∈ after, ∀ other, ¬Assigns later key other

theorem get?_ofText_eq_some_iff {text : String} :
    (ofText text).get? key = some value ↔ LastAssigns text key value := by
  rw [get?_ofText, List.findSome?_eq_some_iff]
  constructor
  · rintro ⟨after, line, before, hlines, hline, hafter⟩
    refine ⟨before.reverse, line, after.reverse, ?_, valueFor?_eq_some_iff.1 hline, ?_⟩
    · rw [← List.reverse_reverse (Text.lines text.toList), hlines]
      simp
    · intro later hlater
      exact valueFor?_eq_none_iff.1 (hafter later (List.mem_reverse.1 hlater))
  · rintro ⟨before, line, after, hlines, hline, hafter⟩
    refine ⟨after.reverse, line, before.reverse, ?_, valueFor?_eq_some_iff.2 hline, ?_⟩
    · rw [hlines]
      simp
    · intro later hlater
      exact valueFor?_eq_none_iff.2 (hafter later (List.mem_reverse.1 hlater))

example : LastAssigns "a=1\n a = 2 \n#a=3\nb=4\na\n" "a" "2" :=
  get?_ofText_eq_some_iff.1 (by decide +kernel)

theorem trim_of_get?_ofText {text : String} (h : (ofText text).get? key = some value) :
    Text.trim value.toList = value.toList := by
  obtain ⟨before, line, after, hlines, hline, hafter⟩ := get?_ofText_eq_some_iff.1 h
  exact hline.trim_value

end Properties

end BpfBoot
