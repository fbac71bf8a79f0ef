import Mathlib
import BpfBoot.Text.Lines

namespace BpfBoot.Text

variable {α : Type} {line : List Char} {read? : List Char → Option α}

def chomp (line : List Char) : List Char := closeLine line.reverse

theorem closeLine_eq_chomp (front : List Char) : closeLine front = chomp front.reverse := by
  rw [chomp, List.reverse_reverse]

@[simp] theorem chomp_append_return (line : List Char) : chomp (line ++ ['\r']) = line := by
  rw [chomp, List.reverse_append]
  exact List.reverse_reverse line

theorem chomp_append_of_ne {c : Char} (h : c ≠ '\r') (line : List Char) :
    chomp (line ++ [c]) = line ++ [c] := by
  rw [chomp, List.reverse_append, List.reverse_singleton, List.singleton_append, closeLine]
  · simp
  · exact fun rest heq => h (List.cons.inj heq).1

theorem eq_chomp_or (line : List Char) : line = chomp line ∨ line = chomp line ++ ['\r'] := by
  rcases List.eq_nil_or_concat' line with rfl | ⟨front, c, rfl⟩
  · exact .inl rfl
  · by_cases hc : c = '\r'
    · subst hc
      exact .inr (by rw [chomp_append_return])
    · exact .inl (chomp_append_of_ne hc front).symm

theorem mem_of_mem_chomp {c : Char} (h : c ∈ chomp line) : c ∈ line := by
  rcases eq_chomp_or line with heq | heq
  · rwa [heq]
  · rw [heq]
    exact List.mem_append_left _ h

theorem chomp_append_cons {c : Char} (h : c ≠ '\r') (front back : List Char) :
    chomp (front ++ c :: back) = front ++ c :: chomp back := by
  rcases List.eq_nil_or_concat' back with rfl | ⟨back, d, rfl⟩
  · exact chomp_append_of_ne h front
  · rw [← List.cons_append, ← List.append_assoc]
    by_cases hd : d = '\r'
    · subst hd
      rw [chomp_append_return, chomp_append_return]
    · rw [chomp_append_of_ne hd, chomp_append_of_ne hd, List.append_assoc, List.cons_append]

theorem linesFrom_append (h : '\n' ∉ line) (front rest : List Char) :
    linesFrom front (line ++ rest) = linesFrom (line.reverse ++ front) rest := by
  induction line generalizing front with
  | nil => rfl
  | cons c line ih =>
      obtain ⟨hc, hline⟩ := not_or.1 (List.mem_cons.not.1 h)
      rw [List.cons_append, linesFrom, ih hline, List.reverse_cons, List.append_assoc]
      · rfl
      · exact fun heq => hc heq.symm

theorem lines_append_feed (h : '\n' ∉ line) (rest : List Char) :
    lines (line ++ '\n' :: rest) = chomp line :: lines rest := by
  rw [lines, linesFrom_append h, List.append_nil]
  rfl

theorem lines_eq_of_not_mem (h : '\n' ∉ line) : lines line = if line = [] then [] else [line] := by
  have hread := linesFrom_append h [] []
  rw [List.append_nil, List.append_nil] at hread
  rw [lines, hread, linesFrom]
  simp

/-- The text holds the lines one after the other. A line feed ends each of them, or a carriage
return and a line feed, and the last one may lack its end. -/
inductive Joins : List (List Char) → List Char → Prop
  | nil : Joins [] []
  | last {line : List Char} (h : '\n' ∉ line) : Joins [line] line
  | feed {line text : List Char} {rest : List (List Char)} (h : '\n' ∉ line)
      (hrest : Joins rest text) : Joins (line :: rest) (line ++ '\n' :: text)
  | returnFeed {line text : List Char} {rest : List (List Char)} (h : '\n' ∉ line)
      (hrest : Joins rest text) : Joins (line :: rest) (line ++ '\r' :: '\n' :: text)

theorem Joins.filterMap_lines {written : List (List Char)} {text : List Char}
    (h : Joins written text) (hempty : read? [] = none)
    (hchomp : ∀ line ∈ written, read? (chomp line) = read? line) :
    (lines text).filterMap read? = written.filterMap read? := by
  induction h with
  | nil => rfl
  | last h =>
      rw [lines_eq_of_not_mem h]
      split
      next hnil => simp [hnil, hempty]
      next => rfl
  | feed h hrest ih =>
      obtain ⟨hline, hwritten⟩ := List.forall_mem_cons.1 hchomp
      rw [lines_append_feed h, List.filterMap_cons, List.filterMap_cons, hline, ih hwritten]
  | returnFeed h hrest ih =>
      rename_i line text rest
      have hreturn : '\n' ∉ line ++ ['\r'] := by simpa using h
      have hlines := lines_append_feed hreturn text
      rw [List.append_assoc, List.singleton_append, chomp_append_return] at hlines
      rw [hlines, List.filterMap_cons, List.filterMap_cons, ih (List.forall_mem_cons.1 hchomp).2]

theorem filterMap_linesFrom_append (hempty : read? [] = none)
    (hchomp : ∀ line, read? (chomp line) = read? line) (front s t : List Char) :
    (linesFrom front (s ++ '\n' :: t)).filterMap read? =
      (linesFrom front s).filterMap read? ++ (lines t).filterMap read? := by
  fun_induction linesFrom front s with
  | case1 front hfront =>
      rw [List.isEmpty_iff.1 hfront]
      exact List.filterMap_cons_none hempty
  | case2 front hfront =>
      have hclose : read? (closeLine front) = read? front.reverse := by
        rw [closeLine_eq_chomp, hchomp]
      rw [← List.filterMap_append, List.singleton_append, List.filterMap_cons, ← hclose,
        ← List.filterMap_cons]
      rfl
  | case3 front rest ih =>
      have hclosed := congrArg (List.filterMap read? [closeLine front] ++ ·) ih
      rwa [← List.append_assoc, ← List.filterMap_append, ← List.filterMap_append] at hclosed
  | case4 front c rest hc ih =>
      rwa [List.cons_append, linesFrom]
      exact hc

end BpfBoot.Text
