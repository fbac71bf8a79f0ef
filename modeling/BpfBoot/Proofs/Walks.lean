import Mathlib
import BpfBoot.Files.Access
import BpfBoot.Proofs.Results

namespace BpfBoot

inductive Way where
  | inside
  | onward (target : Path)
  | stop
  deriving DecidableEq

def Node.way : Node → Way
  | .directory _ => .inside
  | .link target => .onward target
  | .file .. | .device _ => .stop

theorem Node.way_eq_inside {node : Node} (h : node.way = .inside) :
    ∃ mode, node = .directory mode := by
  cases node with
  | directory mode => exact ⟨mode, rfl⟩
  | file | link | device => cases h

namespace Path

theorem namesFrom_ne_nil {name : Name} (h : name ≠ []) (bytes : Text.Octets) :
    namesFrom name bytes ≠ [] := by
  induction bytes generalizing name with
  | nil => simp [namesFrom, h]
  | cons b rest ih =>
      rw [namesFrom]
      split
      · simp [h]
      · exact ih (List.cons_ne_nil b name)

theorem isAbsolute_of_names_eq_nil {p : Path} (hp : p.bytes.isEmpty = false) (h : p.names = []) :
    p.isAbsolute = true := by
  obtain ⟨_ | ⟨b, rest⟩⟩ := p
  · cases hp
  · by_cases hb : b = slash
    · simp [isAbsolute, hb]
    · rw [names, namesFrom, if_neg hb] at h
      exact absurd h (namesFrom_ne_nil (List.cons_ne_nil b []) rest)

end Path

namespace FileSystem

variable {fs : FileSystem} {place q r : Place} {name : Path.Name} {names more : List Path.Name}

def way? (fs : FileSystem) (place : Place) : Option Way := (fs.node? place).map Node.way

theorem way?_eq_inside : fs.way? place = some .inside ↔ ∃ mode, fs.node? place = some (.directory mode) := by
  rw [way?]
  rcases fs.node? place with _ | _ | _ | _ | _ <;> simp [Node.way]

structure IsEntryName (name : Path.Name) : Prop where
  ne_dot : name ≠ Path.dot
  ne_dotDot : name ≠ Path.dotDot
  short : name.length ≤ maxName

/-- Going along the names from a place, following at most so many links, leads to a place. There is
one rule for each kind of step, so that laws of walks are inductions over the rules and not over the
links that may still be followed. -/
inductive Leads (fs : FileSystem) : Nat → Place → List Path.Name → Place → Prop
  | done (budget) (place) : Leads fs budget place [] place
  | stay {budget place names q} (hdir : fs.way? place = some .inside)
      (h : Leads fs budget place names q) : Leads fs budget place (Path.dot :: names) q
  | up {budget place names q} (hdir : fs.way? place = some .inside)
      (h : Leads fs budget place.tail names q) : Leads fs budget place (Path.dotDot :: names) q
  | enter {budget place name names way q} (hdir : fs.way? place = some .inside)
      (hname : IsEntryName name) (hway : fs.way? (name :: place) = some way)
      (hlink : ∀ target, way ≠ .onward target) (h : Leads fs budget (name :: place) names q) :
      Leads fs budget place (name :: names) q
  | follow {budget place name names target q} (hdir : fs.way? place = some .inside)
      (hname : IsEntryName name) (hway : fs.way? (name :: place) = some (.onward target))
      (htarget : target.bytes.isEmpty = false)
      (h : Leads fs budget (startOf target place) (steps target ++ names) q) :
      Leads fs (budget + 1) place (name :: names) q

theorem walkWith_cons_eq_ok {follow : Place → Path → List Path.Name → Except Errno Place} :
    walkWith follow fs place (name :: names) = .ok q ↔
      fs.way? place = some .inside ∧
        (name = Path.dot ∧ walkWith follow fs place names = .ok q ∨
          name = Path.dotDot ∧ walkWith follow fs place.tail names = .ok q ∨
          IsEntryName name ∧ ∃ way, fs.way? (name :: place) = some way ∧
            ((∀ target, way ≠ .onward target) ∧ walkWith follow fs (name :: place) names = .ok q ∨
              ∃ target, way = .onward target ∧ follow place target names = .ok q)) := by
  have hdots : Path.dotDot ≠ Path.dot := by decide
  rw [walkWith, way?, way?]
  rcases fs.node? place with _ | mode | _ | _ | _ <;>
    simp only [Option.map_none, Option.map_some, Node.way, reduceCtorEq, Option.some.injEq,
      false_and, true_and]
  by_cases hdot : name = Path.dot
  · subst hdot
    have hentry : ¬IsEntryName Path.dot := fun h => h.ne_dot rfl
    simp [hentry, hdots.symm]
  by_cases hdotDot : name = Path.dotDot
  · subst hdotDot
    have hentry : ¬IsEntryName Path.dotDot := fun h => h.ne_dotDot rfl
    simp [hentry, hdots]
  by_cases hlong : maxName < name.length
  · simp only [hdot, hdotDot, hlong, if_false, if_true, reduceCtorEq, false_and, false_or, false_iff]
    exact fun h => absurd h.1.short (by omega)
  have hentry : IsEntryName name := ⟨hdot, hdotDot, by omega⟩
  simp only [hdot, hdotDot, hlong, if_false, false_and, false_or, hentry, true_and]
  rcases fs.node? (name :: place) with _ | _ | _ | target | _ <;> simp [Node.way]

/-- `hfollow` is the one rule that depends on the links a walk may still follow. -/
theorem Leads.of_walkWith {budget : Nat}
    {follow : Place → Path → List Path.Name → Except Errno Place}
    (hfollow : ∀ {place name target names}, fs.way? place = some .inside → IsEntryName name →
      fs.way? (name :: place) = some (.onward target) → follow place target names = .ok q →
      fs.Leads budget place (name :: names) q)
    (h : walkWith follow fs place names = .ok q) : fs.Leads budget place names q := by
  induction names generalizing place with
  | nil => cases h; exact .done budget _
  | cons name names ih =>
      obtain ⟨hdir, ⟨rfl, hr⟩ | ⟨rfl, hr⟩ | ⟨hname, way, hway, ⟨hlink, hr⟩ | ⟨target, rfl, hr⟩⟩⟩ :=
        walkWith_cons_eq_ok.1 h
      · exact .stay hdir (ih hr)
      · exact .up hdir (ih hr)
      · exact .enter hdir hname hway hlink (ih hr)
      · exact hfollow hdir hname hway hr

theorem Leads.of_walk {budget : Nat} (h : fs.walk budget place names = .ok q) :
    fs.Leads budget place names q := by
  induction budget generalizing place names with
  | zero =>
      rw [walk] at h
      refine .of_walkWith (fun _ _ _ hr => ?_) h
      cases hr
  | succ budget ih =>
      rw [walk] at h
      refine .of_walkWith (fun hdir hname hway hr => ?_) h
      split at hr
      · cases hr
      · next htarget => exact .follow hdir hname hway (by simpa using htarget) (ih hr)

theorem Leads.walk_eq {budget : Nat} (h : fs.Leads budget place names q) :
    fs.walk budget place names = .ok q := by
  induction h with
  | done budget place => cases budget <;> rfl
  | @stay budget place names q hdir h ih =>
      cases budget <;> exact walkWith_cons_eq_ok.2 ⟨hdir, .inl ⟨rfl, ih⟩⟩
  | @up budget place names q hdir h ih =>
      cases budget <;> exact walkWith_cons_eq_ok.2 ⟨hdir, .inr (.inl ⟨rfl, ih⟩)⟩
  | @enter budget place name names way q hdir hname hway hlink h ih =>
      cases budget <;>
        exact walkWith_cons_eq_ok.2 ⟨hdir, .inr (.inr ⟨hname, way, hway, .inl ⟨hlink, ih⟩⟩)⟩
  | @follow budget place name names target q hdir hname hway htarget h ih =>
      refine walkWith_cons_eq_ok.2
        ⟨hdir, .inr (.inr ⟨hname, .onward target, hway, .inr ⟨target, rfl, ?_⟩⟩)⟩
      simpa [htarget] using ih

theorem walk_eq_ok_iff {budget : Nat} : fs.walk budget place names = .ok q ↔ fs.Leads budget place names q :=
  ⟨Leads.of_walk, Leads.walk_eq⟩

def walkErrors : List Errno := [.noEntry, .notDirectory, .nameTooLong, .linkLoop]

theorem walkWith_error {follow : Place → Path → List Path.Name → Except Errno Place}
    (hfollow : ∀ {dir target rest code}, follow dir target rest = .error code → code ∈ walkErrors)
    {code : Errno} (h : walkWith follow fs place names = .error code) : code ∈ walkErrors := by
  induction names generalizing place with
  | nil => cases h
  | cons name names ih =>
      rw [walkWith] at h
      split at h
      · split at h
        · exact ih h
        split at h
        · exact ih h
        split at h
        · cases h; decide
        split at h
        · cases h; decide
        · exact hfollow h
        · exact ih h
      · cases h; decide

theorem walk_error {budget : Nat} {code : Errno} (h : fs.walk budget place names = .error code) :
    code ∈ walkErrors := by
  induction budget generalizing place names code with
  | zero =>
      rw [walk] at h
      refine walkWith_error (fun hf => ?_) h
      cases hf
      decide
  | succ budget ih =>
      rw [walk] at h
      refine walkWith_error (fun hf => ?_) h
      split at hf
      · cases hf; decide
      · exact ih hf

def IsWalkFault (fault : IoFault) : Prop :=
  fault = .nulInPath ∨ ∃ code ∈ walkErrors, fault = .os code

theorem checkPath_error {p : Path} {fault : IoFault} (h : checkPath p = .error fault) :
    IsWalkFault fault := by
  unfold checkPath at h
  split at h
  · cases h
    exact .inl rfl
  split at h
  · cases h
    exact .inr ⟨.noEntry, by decide, rfl⟩
  split at h
  · cases h
    exact .inr ⟨.nameTooLong, by decide, rfl⟩
  · cases h

theorem mapError_walk_error {budget : Nat} {fault : IoFault}
    (h : (fs.walk budget place names).mapError IoFault.os = .error fault) : IsWalkFault fault := by
  obtain ⟨code, hwalk, rfl⟩ := mapError_eq_error_iff.1 h
  exact .inr ⟨code, walk_error hwalk, rfl⟩

theorem resolve_error {p : Path} {fault : IoFault} (h : fs.resolve p = .error fault) :
    IsWalkFault fault := by
  rw [resolve] at h
  rcases bind_eq_error_iff.1 h with h | ⟨-, -, h⟩
  · exact checkPath_error h
  · exact mapError_walk_error h

theorem look_error {p : Path} {fault : IoFault} (h : fs.look p = .error fault) :
    IsWalkFault fault := by
  rw [look] at h
  rcases bind_eq_error_iff.1 h with h | ⟨place, -, h⟩
  · exact resolve_error h
  split at h
  · cases h
  · cases h
    exact .inr ⟨.noEntry, by decide, rfl⟩

theorem Leads.append {budget : Nat} (h : fs.Leads budget place names q)
    (hmore : ∀ budget, fs.Leads budget q more r) : fs.Leads budget place (names ++ more) r := by
  induction h with
  | done budget place => exact hmore budget
  | stay hdir _ ih => exact .stay hdir (ih hmore)
  | up hdir _ ih => exact .up hdir (ih hmore)
  | enter hdir hname hway hlink _ ih => exact .enter hdir hname hway hlink (ih hmore)
  | follow hdir hname hway htarget _ ih =>
      exact .follow hdir hname hway htarget (List.append_assoc .. ▸ ih hmore)

theorem resolve_eq_ok_iff {p : Path} :
    fs.resolve p = .ok q ↔
      checkPath p = .ok () ∧ fs.Leads maxLinks (startOf p fs.workDir) (steps p) q := by
  rw [← walk_eq_ok_iff, resolve]
  rcases checkPath p with _ | ⟨⟩
  · simp [bind, Except.bind]
  · rcases fs.walk maxLinks (startOf p fs.workDir) (steps p) with _ | _ <;>
      simp [bind, Except.bind, Except.mapError]

theorem look_eq_ok_iff {p : Path} {node : Node} :
    fs.look p = .ok node ↔ ∃ q, fs.resolve p = .ok q ∧ fs.node? q = some node := by
  rw [look]
  rcases fs.resolve p with _ | q
  · simp [bind, Except.bind]
  · rcases h : fs.node? q with _ | _ <;> simp [bind, Except.bind, pure, Except.pure, throw, throwThe,
      MonadExceptOf.throw, h]

/-- A path without names is the root; any other one names something in the directory that the
names before the last one lead to. -/
theorem resolveParent_eq_ok_iff {p : Path} {dir : Place} {last? : Option Path.Name} :
    fs.resolveParent p = .ok (dir, last?) ↔
      checkPath p = .ok () ∧
        (p.names = [] ∧ dir = startOf p fs.workDir ∧ last? = none ∨
          ∃ last, p.names.getLast? = some last ∧
            fs.Leads maxLinks (startOf p fs.workDir) p.names.dropLast dir ∧
            fs.way? dir = some .inside ∧
            last? = if last = Path.dot ∨ last = Path.dotDot then none else some last) := by
  rw [resolveParent]
  rcases checkPath p with _ | ⟨⟩
  · simp [bind, Except.bind]
  rcases hlast : p.names.getLast? with _ | last
  · have hnames : p.names = [] := List.getLast?_eq_none_iff.1 hlast
    simp [bind, Except.bind, pure, Except.pure, hnames, eq_comm]
  · have hnames : p.names ≠ [] := fun h => by simp [h] at hlast
    simp only [← walk_eq_ok_iff, hnames, false_and, false_or]
    rcases hwalk : fs.walk maxLinks (startOf p fs.workDir) p.names.dropLast with _ | place
    · simp [bind, Except.bind, Except.mapError]
    · rcases hnode : fs.node? place with _ | _ | _ | _ | _ <;>
        simp [bind, Except.bind, Except.mapError, pure, Except.pure, throw, throwThe,
          MonadExceptOf.throw, way?, Node.way] <;> grind

theorem node?_of_resolveParent {p : Path} {dir : Place}
    (h : fs.resolveParent p = .ok (dir, some name)) :
    ∃ mode, fs.node? dir = some (.directory mode) := by
  obtain ⟨-, ⟨-, -, hnone⟩ | ⟨last, -, -, hdir, -⟩⟩ := resolveParent_eq_ok_iff.1 h
  · cases hnone
  · exact way?_eq_inside.1 hdir

theorem checkPath_nonempty {p : Path} (h : checkPath p = .ok ()) : p.bytes.isEmpty = false := by
  rcases hbytes : p.bytes with _ | ⟨b, rest⟩
  · simp [checkPath, hbytes] at h
  · rfl

/-- A path leads to a directory if its last name leads there from where the other names lead. A
slash at its end changes nothing then. -/
theorem resolve_of_last {p : Path} {dir : Place} {last : Path.Name} {mode : Mode}
    (hp : checkPath p = .ok ()) (hlast : p.names.getLast? = some last)
    (hdir : fs.Leads maxLinks (startOf p fs.workDir) p.names.dropLast dir)
    (hq : fs.node? q = some (.directory mode))
    (hstep : ∀ budget names, fs.Leads budget q names q → fs.Leads budget dir (last :: names) q) :
    fs.resolve p = .ok q := by
  have hend : ∀ budget, fs.Leads budget q [Path.dot] q := fun budget =>
    .stay (way?_eq_inside.2 ⟨mode, hq⟩) (.done budget q)
  have hnames : p.names = p.names.dropLast ++ [last] := by
    obtain ⟨before, hbefore⟩ := List.getLast?_eq_some_iff.1 hlast
    rw [hbefore, List.dropLast_concat]
  refine resolve_eq_ok_iff.2 ⟨hp, ?_⟩
  rw [steps, hnames]
  split
  · rw [List.append_assoc]
    exact hdir.append fun budget => hstep budget [Path.dot] (hend budget)
  · exact hdir.append fun budget => hstep budget [] (.done budget q)

theorem look_of_last {p : Path} {dir : Place} {last : Path.Name} {mode : Mode}
    (hp : checkPath p = .ok ()) (hlast : p.names.getLast? = some last)
    (hdir : fs.Leads maxLinks (startOf p fs.workDir) p.names.dropLast dir)
    (hq : fs.node? q = some (.directory mode))
    (hstep : ∀ budget names, fs.Leads budget q names q → fs.Leads budget dir (last :: names) q) :
    fs.look p = .ok (.directory mode) :=
  look_eq_ok_iff.2 ⟨q, resolve_of_last hp hlast hdir hq hstep, hq⟩

theorem look_of_resolveParent_none {p : Path} {dir : Place}
    (h : fs.resolveParent p = .ok (dir, none)) : ∃ mode, fs.look p = .ok (.directory mode) := by
  obtain ⟨hp, ⟨hnames, rfl, -⟩ | ⟨last, hlast, hwalk, hdir, hnone⟩⟩ := resolveParent_eq_ok_iff.1 h
  · have habs := Path.isAbsolute_of_names_eq_nil (checkPath_nonempty hp) hnames
    refine ⟨rootMode, look_eq_ok_iff.2 ⟨[], resolve_eq_ok_iff.2 ⟨hp, ?_⟩, rfl⟩⟩
    rw [startOf, if_pos habs, steps, hnames]
    split
    · exact .stay rfl (.done _ _)
    · exact .done _ _
  · have hdots : last = Path.dot ∨ last = Path.dotDot := by
      split at hnone
      · assumption
      · cases hnone
    obtain ⟨mode, hnode⟩ := way?_eq_inside.1 hdir
    rcases hdots with rfl | rfl
    · exact ⟨mode, look_of_last hp hlast hwalk hnode fun budget names h => .stay hdir h⟩
    · obtain ⟨above, htail⟩ := node?_tail hnode
      exact ⟨above, look_of_last hp hlast hwalk htail fun budget names h => .up hdir h⟩

theorem resolve_of_resolveParent {p : Path} {dir : Place} {mode : Mode}
    (h : fs.resolveParent p = .ok (dir, some name)) (hshort : name.length ≤ maxName)
    (hnode : fs.node? (name :: dir) = some (.directory mode)) :
    fs.resolve p = .ok (name :: dir) := by
  obtain ⟨hp, ⟨-, -, hnone⟩ | ⟨last, hlast, hwalk, hdir, hsome⟩⟩ := resolveParent_eq_ok_iff.1 h
  · cases hnone
  · split at hsome
    · cases hsome
    · next hdots =>
      obtain rfl := Option.some.inj hsome
      rw [not_or] at hdots
      refine resolve_of_last hp hlast hwalk hnode fun budget names h => ?_
      exact .enter hdir ⟨hdots.1, hdots.2, hshort⟩ (way?_eq_inside.2 ⟨mode, hnode⟩) (by simp) h

theorem look_of_resolveParent {p : Path} {dir : Place} {mode : Mode}
    (h : fs.resolveParent p = .ok (dir, some name)) (hshort : name.length ≤ maxName)
    (hnode : fs.node? (name :: dir) = some (.directory mode)) :
    fs.look p = .ok (.directory mode) :=
  look_eq_ok_iff.2 ⟨name :: dir, resolve_of_resolveParent h hshort hnode, hnode⟩

end FileSystem

end BpfBoot
