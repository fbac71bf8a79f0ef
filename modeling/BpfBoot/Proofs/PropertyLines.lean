import Mathlib
import BpfBoot.Proofs.Assignments
import BpfBoot.Proofs.TextLines

namespace BpfBoot

theorem Text.trim_chomp (line : List Char) : trim (chomp line) = trim line := by
  have hreturn : Blank ['\r'] := List.forall_mem_singleton.2 (by decide)
  rcases eq_chomp_or line with heq | heq
  · rw [← heq]
  · rw [heq, chomp_append_return, trim_append_blank hreturn]

namespace Properties

open Text (Blank Joins chomp trim)

variable {line : List Char} {key value : String} {entries : List (String × String)}
  {lines : List (List Char)} {text : String}

theorem assignment?_chomp (line : List Char) : assignment? (chomp line) = assignment? line := by
  rw [assignment?, assignment?, Text.trim_chomp]

theorem assignments_append (s t : String) :
    assignments (s ++ "\n" ++ t) = assignments s ++ assignments t := by
  have htext : (s ++ "\n" ++ t).toList = s.toList ++ '\n' :: t.toList := by simp
  rw [assignments, htext]
  exact Text.filterMap_linesFrom_append rfl assignment?_chomp [] s.toList t.toList

theorem get?_ofText_append (s t key : String) :
    (ofText (s ++ "\n" ++ t)).get? key = ((ofText t).get? key).or ((ofText s).get? key) := by
  rw [ofText, ofAssignments, assignments_append, List.foldl_append, assignments.eq_def t,
    get?_foldl_put, ← get?_ofText]
  rfl

/-- An entry that a line gives back: trimming changes neither its key nor its value, the key holds
no equals sign, and no comment sign stands in front of it. -/
structure IsPlain (entry : String × String) : Prop where
  trim_key : trim entry.1.toList = entry.1.toList
  equals_not_mem : '=' ∉ entry.1.toList
  head_ne : entry.1.toList.head? ≠ some '#'
  trim_value : trim entry.2.toList = entry.2.toList

theorem Assigns.isPlain (h : Assigns line key value) : IsPlain (key, value) := by
  have hvalue := h.trim_value
  obtain ⟨hcut, hfirst, hcomment⟩ := h
  rename_i front back
  -- The key begins where the line does, so no blank in front of it can hide a comment sign.
  have hstart : Text.trimStart front = front := by
    have hline := Text.trimStart_trim line
    rw [hcut, Text.trimStart_append_cons (by decide)] at hline
    exact List.append_cancel_right hline
  refine ⟨?_, ?_, ?_, hvalue⟩
  · rw [String.toList_ofList, Text.trim_trim]
  · rw [String.toList_ofList]
    exact fun hmem => hfirst (Text.mem_of_mem_trim hmem)
  · rwa [String.toList_ofList, Text.head?_trim, hstart]

/-- One line for each entry, in their order, and blanks around the key and the value. Comments, and
lines without an equals sign, blank ones among them, stand anywhere. -/
inductive Written : List (String × String) → List (List Char) → Prop
  | nil : Written [] []
  | entry {key value : String} {entries : List (String × String)} {lines : List (List Char)}
      {w₁ w₂ w₃ w₄ : List Char} (h₁ : Blank w₁) (h₂ : Blank w₂) (h₃ : Blank w₃) (h₄ : Blank w₄)
      (hrest : Written entries lines) :
      Written ((key, value) :: entries)
        ((w₁ ++ key.toList ++ w₂ ++ '=' :: (w₃ ++ value.toList ++ w₄)) :: lines)
  | comment {w : List Char} (h : Blank w) (words : List Char) {entries : List (String × String)}
      {lines : List (List Char)} (hrest : Written entries lines) :
      Written entries ((w ++ '#' :: words) :: lines)
  | idle {line : List Char} (h : '=' ∉ line) {entries : List (String × String)}
      {lines : List (List Char)} (hrest : Written entries lines) : Written entries (line :: lines)

theorem assignment?_entry {w₁ w₂ w₃ w₄ : List Char} (h : IsPlain (key, value)) (h₁ : Blank w₁)
    (h₂ : Blank w₂) (h₃ : Blank w₃) (h₄ : Blank w₄) :
    assignment? (w₁ ++ key.toList ++ w₂ ++ '=' :: (w₃ ++ value.toList ++ w₄)) =
      some (key, value) := by
  have hequals : Text.isBlank '=' = false := by decide
  have hkey := Text.trim_between h₁ h₂ h.trim_key
  have hvalue := Text.trim_between h₃ h₄ h.trim_value
  have hfirst : '=' ∉ Text.trimStart (w₁ ++ key.toList ++ w₂) := by
    intro hmem
    rcases List.mem_append.1 (Text.mem_of_mem_trimStart hmem) with hmem | hmem
    · exact (List.mem_append.1 hmem).elim (h₁.not_mem hequals) h.equals_not_mem
    · exact h₂.not_mem hequals hmem
  have hcomment : (Text.trimStart (w₁ ++ key.toList ++ w₂)).head? ≠ some '#' := by
    rw [← Text.head?_trim, hkey]
    exact h.head_ne
  have hassigns := Assigns.mk
    (Text.trim_append_cons hequals (w₁ ++ key.toList ++ w₂) (w₃ ++ value.toList ++ w₄))
    hfirst hcomment
  rw [Text.trim_trimStart, Text.trim_trimEnd, hkey, hvalue, String.ofList_toList,
    String.ofList_toList] at hassigns
  exact assignment?_eq_some_iff.2 hassigns

theorem assignment?_comment {w : List Char} (h : Blank w) (words : List Char) :
    assignment? (w ++ '#' :: words) = none := by
  have htrim : trim (w ++ '#' :: words) = '#' :: Text.trimEnd words := by
    rw [Text.trim_append_cons (by decide), Text.trimStart_of_blank h, List.nil_append]
  rw [assignment?, htrim]
  rfl

theorem assignment?_idle (h : '=' ∉ line) : assignment? line = none := by
  rcases hassigned : assignment? line with _ | ⟨key, value⟩
  · rfl
  · obtain ⟨hcut, hfirst, hcomment⟩ := assignment?_eq_some_iff.1 hassigned
    refine absurd (Text.mem_of_mem_trim ?_) h
    rw [hcut]
    exact List.mem_append_right _ List.mem_cons_self

theorem Written.filterMap_assignment? (h : Written entries lines)
    (hplain : ∀ entry ∈ entries, IsPlain entry) : lines.filterMap assignment? = entries := by
  induction h with
  | nil => rfl
  | entry h₁ h₂ h₃ h₄ hrest ih =>
      obtain ⟨hentry, hplain⟩ := List.forall_mem_cons.1 hplain
      rw [List.filterMap_cons_some (assignment?_entry hentry h₁ h₂ h₃ h₄), ih hplain]
  | comment h words hrest ih =>
      rw [List.filterMap_cons_none (assignment?_comment h words), ih hplain]
  | idle h hrest ih => rw [List.filterMap_cons_none (assignment?_idle h), ih hplain]

theorem foldl_put_of_nodup (front : List (String × String)) {assigned : List (String × String)}
    (h : ((front ++ assigned).map Prod.fst).Nodup) :
    (assigned.foldl (fun p a => p.put a.1 a.2) ⟨front⟩ : Properties) = ⟨front ++ assigned⟩ := by
  induction assigned generalizing front with
  | nil => rw [List.append_nil]; rfl
  | cons entry assigned ih =>
      obtain ⟨key, value⟩ := entry
      have hkey : key ∉ front.map Prod.fst := by
        rw [List.map_append, List.map_cons] at h
        exact fun hmem => List.disjoint_of_nodup_append h hmem List.mem_cons_self
      rw [List.append_cons] at h
      rw [List.foldl_cons, put, Table.put_of_not_mem value hkey, ih _ h, ← List.append_cons]

theorem ofText_of_written (hkeys : (entries.map Prod.fst).Nodup)
    (hplain : ∀ entry ∈ entries, IsPlain entry) (hlines : Written entries lines)
    (htext : Joins lines text.toList) : ofText text = ⟨entries⟩ := by
  have hassigned : assignments text = entries := by
    rw [assignments, htext.filterMap_lines rfl fun line _ => assignment?_chomp line,
      hlines.filterMap_assignment? hplain]
  rw [ofText, ofAssignments, hassigned]
  exact foldl_put_of_nodup [] hkeys

theorem mem_of_mem_foldl_put {entry : String × String} {assigned : List (String × String)}
    {p : Properties} (h : entry ∈ (assigned.foldl (fun p a => p.put a.1 a.2) p).entries) :
    entry ∈ p.entries ∨ entry ∈ assigned := by
  induction assigned generalizing p with
  | nil => exact .inl h
  | cons first assigned ih =>
      rcases ih h with h | h
      · exact (Table.mem_put h).elim (fun heq => .inr (heq ▸ List.mem_cons_self)) .inl
      · exact .inr (List.mem_cons_of_mem first h)

theorem exists_assigns_of_mem {entry : String × String} (h : entry ∈ (ofText text).entries) :
    ∃ line ∈ Text.lines text.toList, Assigns line entry.1 entry.2 := by
  rcases mem_of_mem_foldl_put h with h | h
  · cases h
  · obtain ⟨line, hline, hassigned⟩ := List.mem_filterMap.1 h
    exact ⟨line, hline, assignment?_eq_some_iff.1 hassigned⟩

theorem isPlain_of_mem {entry : String × String} (h : entry ∈ (ofText text).entries) :
    IsPlain entry := by
  obtain ⟨line, hline, hassigns⟩ := exists_assigns_of_mem h
  exact hassigns.isPlain

/-- The text of `t` overrides that of `s`, and a later line an earlier one; plain entries are read
back from any text that they are written in; and whatever is read from a text is plain. -/
theorem entries_of_lines :
    (∀ s t key, (ofText (s ++ "\n" ++ t)).get? key =
      ((ofText t).get? key).or ((ofText s).get? key)) ∧
    (∀ text key value, (ofText text).get? key = some value ↔ LastAssigns text key value) ∧
    (∀ entries lines text, (entries.map Prod.fst).Nodup → (∀ entry ∈ entries, IsPlain entry) →
      Written entries lines → Joins lines text.toList →
        (ofText text).entries = entries ∧
          ∀ key value, (ofText text).get? key = some value ↔ (key, value) ∈ entries) ∧
    ∀ text, ∀ entry ∈ (ofText text).entries, IsPlain entry := by
  refine ⟨get?_ofText_append, fun text key value => get?_ofText_eq_some_iff, ?_,
    fun text entry => isPlain_of_mem⟩
  intro entries lines text hkeys hplain hlines htext
  rw [ofText_of_written hkeys hplain hlines htext]
  refine ⟨rfl, fun key value => ?_⟩
  exact ⟨Table.mem_of_get?, Table.get?_of_mem hkeys⟩

def commentedLines : List (List Char) :=
  ["  ro.a\t= 1=#2 ".toList, " # b=1".toList, "".toList, "= ".toList, "note".toList]

theorem written_commented : Written [("ro.a", "1=#2"), ("", "")] commentedLines := by
  have hspace : Blank [' '] := by decide
  have hnil : Blank [] := by decide
  refine @Written.entry "ro.a" "1=#2" _ _ [' ', ' '] ['\t'] [' '] [' '] (by decide) (by decide)
    hspace hspace ?_
  refine @Written.comment [' '] hspace " b=1".toList _ _ (.idle (by decide) ?_)
  refine @Written.entry "" "" _ _ [] [] [] [' '] hnil hnil hnil hspace ?_
  exact .idle (by decide) .nil

theorem joins_commented :
    Joins commentedLines "  ro.a\t= 1=#2 \r\n # b=1\n\n= \r\nnote".toList :=
  .returnFeed (by decide) <| .feed (by decide) <| .feed (by decide) <| .returnFeed (by decide) <|
    .last (by decide)

theorem entries_of_lines_commented :
    Written [("ro.a", "1=#2"), ("", "")] commentedLines ∧
      Joins commentedLines "  ro.a\t= 1=#2 \r\n # b=1\n\n= \r\nnote".toList ∧
      (∀ entry ∈ [("ro.a", "1=#2"), ("", "")], IsPlain entry) ∧
      (ofText "  ro.a\t= 1=#2 \r\n # b=1\n\n= \r\nnote").entries =
        [("ro.a", "1=#2"), ("", "")] := by
  have hplain : ∀ entry ∈ [("ro.a", "1=#2"), ("", "")], IsPlain entry := by
    rintro entry (_ | ⟨_, _ | ⟨_, ⟨⟩⟩⟩)
    · exact ⟨by decide, by decide, by decide, by decide⟩
    · exact ⟨by decide, by decide, by decide, by decide⟩
  have hentries := entries_of_lines.2.2.1 _ commentedLines _ (by decide) hplain written_commented
    joins_commented
  exact ⟨written_commented, joins_commented, hplain, hentries.1⟩

end Properties

end BpfBoot
