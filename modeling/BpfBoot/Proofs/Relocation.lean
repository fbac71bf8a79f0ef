import BpfBoot.Config.Basic
import BpfBoot.Proofs.Below

namespace BpfBoot

open Text (Octets)

namespace Path

variable {p q r root : Path} {tail : Octets}

def gap (front : Octets) : Octets :=
  if front = [] ∨ front.getLast? = some slash then [] else [slash]

theorem join_of_relative (p : Path) (hq : q.isAbsolute = false) :
    p.join q = ⟨p.bytes ++ gap p.bytes ++ q.bytes⟩ := by
  have hends : (p.bytes.isEmpty || decide (p.bytes.getLast? = some slash)) = true ↔
      p.bytes = [] ∨ p.bytes.getLast? = some slash := by simp
  rw [join, if_neg (by rw [hq]; exact Bool.false_ne_true), gap]
  simp only [hends]
  split
  · rw [List.append_nil]
  · rw [List.append_assoc, List.singleton_append]

theorem gap_append_gap (front : Octets) : gap (front ++ gap front) = [] := by
  rw [gap.eq_def front]
  split
  next h => rw [List.append_nil, gap, if_pos h]
  next => rw [gap, if_pos (.inr List.getLast?_concat)]

theorem gap_append_concat (front back : Octets) (b : UInt8) :
    gap (front ++ (back ++ [b])) = gap (back ++ [b]) := by
  rw [gap, gap, ← List.append_assoc, List.getLast?_concat, List.getLast?_concat]
  simp

/-- Only the end of what is joined last shows at the end of a path. -/
theorem gap_join (p : Path) (hq : q.isAbsolute = false) : gap (p.join q).bytes = gap q.bytes := by
  rw [join_of_relative p hq]
  rcases List.eq_nil_or_concat' q.bytes with hbytes | ⟨front, b, hbytes⟩
  · rw [hbytes, List.append_nil, gap_append_gap]
    rfl
  · rw [hbytes, gap_append_concat]

theorem gap_cons_slash (tail : Octets) : gap (slash :: tail) = gap tail := by
  rcases List.eq_nil_or_concat' tail with rfl | ⟨front, b, rfl⟩
  · rfl
  · exact gap_append_concat [slash] front b

theorem join_assoc (p q r : Path) : (p.join q).join r = p.join (q.join r) := by
  by_cases hr : r.isAbsolute = true
  · rw [join_of_isAbsolute hr, join_of_isAbsolute hr, join_of_isAbsolute hr]
  rw [Bool.not_eq_true] at hr
  have hqr := isAbsolute_join q hr
  by_cases hq : q.isAbsolute = true
  · rw [join_of_isAbsolute hq, join_of_isAbsolute (hqr.trans hq)]
  rw [Bool.not_eq_true] at hq
  rw [join_of_relative _ hr, gap_join p hq, join_of_relative p hq,
    join_of_relative p (hqr.trans hq), join_of_relative q hr]
  simp only [List.append_assoc]

/-- The second path is the first one, which starts at the root, moved below another root. -/
def Moved (root p q : Path) : Prop := ∃ tail, p.bytes = slash :: tail ∧ q = root.join ⟨tail⟩

theorem Moved.join (h : Moved root p q) (hr : r.isAbsolute = false) :
    Moved root (p.join r) (q.join r) := by
  obtain ⟨tail, hp, rfl⟩ := h
  refine ⟨((⟨tail⟩ : Path).join r).bytes, ?_, join_assoc root ⟨tail⟩ r⟩
  rw [join_of_relative p hr, join_of_relative ⟨tail⟩ hr, hp, gap_cons_slash]
  rfl

end Path

inductive PathKey where
  | platformEntry | moduleEntry | secondStage | legacyLoader | legacyScript | newScript
  | moduleMount | mountsTable | pinRoot | sysctlRoot | buildProperties
  deriving DecidableEq

def Layout.path (layout : Layout) : PathKey → Path
  | .platformEntry => layout.platformEntry
  | .moduleEntry => layout.moduleEntry
  | .secondStage => layout.secondStage
  | .legacyLoader => layout.legacyLoader
  | .legacyScript => layout.legacyScript
  | .newScript => layout.newScript
  | .moduleMount => layout.moduleMount
  | .mountsTable => layout.mountsTable
  | .pinRoot => layout.pinRoot
  | .sysctlRoot => layout.sysctlRoot
  | .buildProperties => layout.buildProperties

namespace Config

namespace PathChoices

variable {p q : PathChoices} {key other : PathKey} {value : Option String} {s : String}

def given (p : PathChoices) : PathKey → Option String
  | .platformEntry => p.platformEntry
  | .moduleEntry => p.moduleEntry
  | .secondStage => p.secondStage
  | .legacyLoader => p.legacyLoader
  | .legacyScript => p.legacyScript
  | .newScript => p.newScript
  | .moduleMount => p.moduleMount
  | .mountsTable => p.mountsTable
  | .pinRoot => p.pinRoot
  | .sysctlRoot => p.sysctlRoot
  | .buildProperties => p.buildProperties

def give (p : PathChoices) (key : PathKey) (value : Option String) : PathChoices :=
  match key with
  | .platformEntry => { p with platformEntry := value }
  | .moduleEntry => { p with moduleEntry := value }
  | .secondStage => { p with secondStage := value }
  | .legacyLoader => { p with legacyLoader := value }
  | .legacyScript => { p with legacyScript := value }
  | .newScript => { p with newScript := value }
  | .moduleMount => { p with moduleMount := value }
  | .mountsTable => { p with mountsTable := value }
  | .pinRoot => { p with pinRoot := value }
  | .sysctlRoot => { p with sysctlRoot := value }
  | .buildProperties => { p with buildProperties := value }

/-- The key that decides a path: its own, unless it is left out and follows another one. -/
def source (p : PathChoices) : PathKey → PathKey
  | .moduleEntry => if p.moduleEntry.isNone then .moduleMount else .moduleEntry
  | .legacyLoader => if p.legacyLoader.isNone then .secondStage else .legacyLoader
  | key => key

end PathChoices

end Config

end BpfBoot
