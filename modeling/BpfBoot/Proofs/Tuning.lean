import Mathlib
import BpfBoot.Files.Plant
import BpfBoot.Proofs.Repeats

namespace BpfBoot

open Text (Octets encode)

namespace FileSystem

variable {fs gs : FileSystem} {p q : Path} {place : Place} {limit : Option Nat} {data : Octets}
  {content : Octets} {program : Option Termination}

/-- What a write leaves of a file. -/
def overlaid (limit : Option Nat) (data content : Octets) : Octets :=
  match accepted limit data.length with
  | .error _ => content
  | .ok count => data.take count ++ content.drop count

theorem length_le_overlaid (limit : Option Nat) (data content : Octets) :
    content.length ≤ (overlaid limit data content).length := by
  unfold overlaid
  split
  · exact Nat.le_refl _
  · next count hcount =>
    have hle := accepted_le hcount
    rw [List.length_append, List.length_take, List.length_drop]
    omega

theorem resolve_of_openAppend (h : fs.openAppend p = .ok place) : fs.resolve p = .ok place := by
  rw [openAppend] at h
  rcases hp : fs.resolve p with fault | other <;> simp only [hp, bind, Except.bind] at h
  · cases h
  · split at h
    · exact h
    · exact h
    · cases h

theorem overwrite_of_closed {fault : IoFault} (h : fs.openAppend p = .error fault)
    (limit : Option Nat) (data : Octets) : fs.overwrite limit p data = (.error fault, fs) := by
  rw [openAppend] at h
  rw [overwrite]
  rcases hp : fs.resolve p with other | place <;> simp only [hp, bind, Except.bind] at h
  · rw [Except.error.inj h]
  · rcases hnode : fs.node? place with _ | _ | _ | _ | _ <;> simp only [hnode] at h <;> cases h <;>
      simp only [hnode]

theorem overwrite_of_file (h : fs.openAppend p = .ok place)
    (hnode : fs.node? place = some (.file content program)) (limit : Option Nat) (data : Octets) :
    fs.overwrite limit p data =
      ((accepted limit data.length).mapError .os,
        fs.put place (.file (overlaid limit data content) program)) := by
  have hplace : place ≠ [] := by
    rintro rfl
    cases hnode
  rw [overwrite, resolve_of_openAppend h]
  simp only [hnode, overlaid]
  rcases accepted limit data.length with code | count
  · simp only [Except.mapError, put_of_node? hplace hnode]
  · rfl

theorem resolve_overwrite (limit : Option Nat) (p : Path) (data : Octets) (fs : FileSystem)
    (q : Path) : (fs.overwrite limit p data).2.resolve q = fs.resolve q :=
  resolve_congr (way?_overwrite limit p data fs) (grows_overwrite limit p data fs).workDir q

theorem node?_overwrite (limit : Option Nat) (p : Path) (data : Octets) (fs : FileSystem)
    (place : Place) :
    (fs.overwrite limit p data).2.node? place = fs.node? place ∨
      ∃ content content' program, fs.node? place = some (.file content program) ∧
        (fs.overwrite limit p data).2.node? place = some (.file content' program) := by
  obtain h | ⟨other, content, program, count, -, hnode, -, h⟩ := overwrite_cases limit p data fs
  · exact .inl (by rw [h])
  · rw [h, node?_put_file hnode]
    split
    · next hsame => exact .inr ⟨content, _, program, hsame ▸ hnode, rfl⟩
    · exact .inl rfl

/-- What a write comes to is not changed by one before it, at the same path or at another one. -/
theorem fst_overwrite_overwrite (limit limit' : Option Nat) (p q : Path) (data data' : Octets)
    (fs : FileSystem) :
    ((fs.overwrite limit p data).2.overwrite limit' q data').1 = (fs.overwrite limit' q data').1 := by
  have hresolve := resolve_overwrite limit p data fs q
  have hnode := node?_overwrite limit p data fs
  generalize (fs.overwrite limit p data).2 = gs at hresolve hnode ⊢
  rw [overwrite, overwrite, hresolve]
  rcases fs.resolve q with fault | place
  · rfl
  obtain hsame | ⟨content, content', program, hold, hnew⟩ := hnode place
  · simp only [hsame]
    rcases fs.node? place with _ | _ | _ | _ | (_ | _) <;> try rfl
    rcases accepted limit' data'.length with _ | _ <;> rfl
  · simp only [hold, hnew]
    rcases accepted limit' data'.length with _ | _ <;> rfl

theorem openAppend_overwrite (limit : Option Nat) (p : Path) (data : Octets) (fs : FileSystem)
    (q : Path) : (fs.overwrite limit p data).2.openAppend q = fs.openAppend q := by
  rw [openAppend, openAppend, resolve_overwrite]
  rcases fs.resolve q with fault | place
  · rfl
  obtain hsame | ⟨content, content', program, hold, hnew⟩ := node?_overwrite limit p data fs place
  · simp only [bind, Except.bind, hsame]
  · simp only [bind, Except.bind, hold, hnew]

theorem places_overwrite (limit : Option Nat) (p : Path) (data : Octets) (fs : FileSystem) :
    (fs.overwrite limit p data).2.nodes.map Prod.fst = fs.nodes.map Prod.fst := by
  obtain h | ⟨place, content, program, count, -, hnode, -, h⟩ := overwrite_cases limit p data fs <;>
    rw [h]
  rw [put, dif_pos (fits_of_node? hnode rfl _)]
  apply Table.map_fst_put_of_mem
  cases place with
  | nil => cases hnode
  | cons name dir => exact List.mem_map_of_mem (Table.mem_of_get? hnode)

theorem node?_overwrite_of_ne (h : fs.openAppend p ≠ .ok place) (limit : Option Nat)
    (data : Octets) : (fs.overwrite limit p data).2.node? place = fs.node? place := by
  obtain hnone | ⟨other, content, program, count, hresolve, hnode, -, hput⟩ :=
    overwrite_cases limit p data fs
  · rw [hnone]
  · rw [hput, node?_put_file hnode, if_neg]
    rintro rfl
    exact h (by simp only [openAppend, hresolve, bind, Except.bind, hnode]; rfl)

structure Keeps (fs gs : FileSystem) : Prop where
  workDir : gs.workDir = fs.workDir
  places : gs.nodes.map Prod.fst = fs.nodes.map Prod.fst
  file : ∀ {place content program}, fs.node? place = some (.file content program) →
    ∃ content', gs.node? place = some (.file content' program) ∧ content.length ≤ content'.length

theorem Keeps.refl (fs : FileSystem) : Keeps fs fs :=
  ⟨rfl, rfl, fun h => ⟨_, h, Nat.le_refl _⟩⟩

theorem Keeps.trans {hs : FileSystem} (h : Keeps fs gs) (h' : Keeps gs hs) : Keeps fs hs := by
  refine ⟨h'.workDir.trans h.workDir, h'.places.trans h.places, fun hfile => ?_⟩
  obtain ⟨content', hfile', hle⟩ := h.file hfile
  obtain ⟨content'', hfile'', hle'⟩ := h'.file hfile'
  exact ⟨content'', hfile'', hle.trans hle'⟩

theorem keeps_overwrite (limit : Option Nat) (p : Path) (data : Octets) (fs : FileSystem) :
    Keeps fs (fs.overwrite limit p data).2 := by
  refine ⟨(grows_overwrite limit p data fs).workDir, places_overwrite limit p data fs, ?_⟩
  intro place content program hfile
  by_cases hopen : fs.openAppend p = .ok place
  · rw [overwrite_of_file hopen hfile, node?_put_file hfile, if_pos rfl]
    exact ⟨_, rfl, length_le_overlaid limit data content⟩
  · rw [node?_overwrite_of_ne hopen]
    exact ⟨content, hfile, Nat.le_refl _⟩

end FileSystem

open FileSystem (Keeps overlaid accepted)

abbrev Knob.under (root : Path) (knob : Knob) : Path := root.join (.ofString knob.path)

namespace Sysctl

variable {σ : Type} {root : Path} {kernel : Version} {m : Machine} {fs : FileSystem} {knob : Knob}
  {ks : List Knob} {place : Place} {content : Octets} {program : Option Termination}

section Writes

def setAll (root : Path) (limit : Option Nat) (ks : List Knob) (fs : FileSystem) : FileSystem :=
  ks.foldl (fun fs knob => (fs.overwrite limit (knob.under root) (encode knob.value)).2) fs

theorem setAll_cons (root : Path) (limit : Option Nat) (knob : Knob) (ks : List Knob)
    (fs : FileSystem) :
    setAll root limit (knob :: ks) fs =
      setAll root limit ks (fs.overwrite limit (knob.under root) (encode knob.value)).2 := rfl

theorem keeps_setAll (root : Path) (limit : Option Nat) (ks : List Knob) (fs : FileSystem) :
    Keeps fs (setAll root limit ks fs) := by
  induction ks generalizing fs with
  | nil => exact .refl fs
  | cons knob ks ih =>
      rw [setAll_cons]
      exact (FileSystem.keeps_overwrite limit _ _ fs).trans (ih _)

/-- The knobs that can be opened are files, each of its own. -/
structure OwnFiles (root : Path) (ks : List Knob) (fs : FileSystem) : Prop where
  regular : ∀ knob ∈ ks, ∀ place, fs.openAppend (knob.under root) = .ok place →
    ∃ content program, fs.node? place = some (.file content program)
  own : ks.Pairwise fun knob other => ∀ place, fs.openAppend (knob.under root) = .ok place →
    fs.openAppend (other.under root) ≠ .ok place

theorem node?_setAll_of_ne (limit : Option Nat)
    (h : ∀ knob ∈ ks, fs.openAppend (knob.under root) ≠ .ok place) :
    (setAll root limit ks fs).node? place = fs.node? place := by
  induction ks generalizing fs with
  | nil => rfl
  | cons knob ks ih =>
      obtain ⟨hfirst, hrest⟩ := List.forall_mem_cons.1 h
      rw [setAll_cons, ih, FileSystem.node?_overwrite_of_ne hfirst]
      intro other hother
      rw [FileSystem.openAppend_overwrite]
      exact hrest other hother

/-- The file of a knob holds what its own write has left, the writes before and after it at other
places. -/
theorem node?_setAll_of_mem (limit : Option Nat)
    (hown : ks.Pairwise fun knob other => ∀ place, fs.openAppend (knob.under root) = .ok place →
      fs.openAppend (other.under root) ≠ .ok place)
    (hknob : knob ∈ ks) (hopen : fs.openAppend (knob.under root) = .ok place)
    (hfile : fs.node? place = some (.file content program)) :
    (setAll root limit ks fs).node? place =
      some (.file (overlaid limit (encode knob.value) content) program) := by
  induction ks generalizing fs with
  | nil => cases hknob
  | cons first ks ih =>
      obtain ⟨hfirst, hrest⟩ := List.pairwise_cons.1 hown
      rw [setAll_cons]
      rcases List.mem_cons.1 hknob with rfl | hmem
      · rw [node?_setAll_of_ne, FileSystem.overwrite_of_file hopen hfile,
          FileSystem.node?_put_file hfile, if_pos rfl]
        intro other hother
        rw [FileSystem.openAppend_overwrite]
        exact hfirst other hother place hopen
      · apply ih
        · simpa only [FileSystem.openAppend_overwrite] using hrest
        · exact hmem
        · rw [FileSystem.openAppend_overwrite]
          exact hopen
        · rw [FileSystem.node?_overwrite_of_ne fun h => hfirst knob hmem place h hopen]
          exact hfile

end Writes

section Run

def answer (root : Path) (m : Machine) (knob : Knob) : Except IoFault Unit :=
  (write (knob.under root) knob.value m).1

/-- The state after the writes of some knobs, all of them answered as on the state before. -/
def leftBy (root : Path) (kernel : Version) (ks : List Knob) (s : BootState σ) : BootState σ :=
  { s with
    machine := { s.machine with files := setAll root s.machine.writeLimit ks s.machine.files }
    log := s.log ++ ks.map fun knob => told (knob.under root) knob kernel (answer root s.machine knob)
    effects := s.effects ++ ks.map fun knob => .writeKnob (knob.under root) }

theorem length_effects_leftBy (root : Path) (kernel : Version) (ks : List Knob) (s : BootState σ) :
    (leftBy root kernel ks s).effects.length = s.effects.length + ks.length := by
  rw [leftBy, List.length_append, List.length_map]

theorem answer_write (root : Path) (path : Path) (value : String) (m : Machine) :
    answer root (write path value m).2 = answer root m := by
  funext knob
  simp only [answer, write, FileSystem.fst_overwrite_overwrite]

theorem answer_leftBy (root : Path) (kernel : Version) (knob : Knob) (s : BootState σ) :
    answer root (leftBy root kernel [knob] s).machine = answer root s.machine :=
  answer_write root (knob.under root) knob.value s.machine

theorem leftBy_cons (root : Path) (kernel : Version) (knob : Knob) (ks : List Knob)
    (s : BootState σ) :
    leftBy root kernel ks (leftBy root kernel [knob] s) = leftBy root kernel (knob :: ks) s := by
  rw [leftBy, answer_leftBy]
  simp only [leftBy, List.append_assoc]
  rfl

theorem runOn_forM_applyKnob (root : Path) (kernel : Version) (ks : List Knob) (s : BootState σ) :
    let judged (knob : Knob) := judge (knob.under root) knob kernel (answer root s.machine knob)
    let ended := (ks.forM fun knob => applyKnob root knob kernel).runOn s
    ((∀ knob ∈ ks, judged knob = .ok ()) ∧ ended = (.ok (), leftBy root kernel ks s)) ∨
      ∃ before knob after e, ks = before ++ knob :: after ∧
        (∀ other ∈ before, judged other = .ok ()) ∧ judged knob = .error e ∧
        ended = (.error e, leftBy root kernel (before ++ [knob]) s) := by
  induction ks generalizing s with
  | nil => exact .inl ⟨List.forall_mem_nil _, by simp [leftBy, setAll]⟩
  | cons knob ks ih =>
      intro judged ended
      have hrun : (applyKnob root knob kernel).runOn s =
          (judge (knob.under root) knob kernel (answer root s.machine knob),
            leftBy root kernel [knob] s) := runOn_applyKnob root knob kernel s
      cases hjudged : judge (knob.under root) knob kernel (answer root s.machine knob) with
      | error e =>
          rw [hjudged] at hrun
          exact .inr ⟨[], knob, ks, e, rfl, List.forall_mem_nil _, hjudged,
            Boot.runOn_forM_of_error (f := fun knob => applyKnob root knob kernel) hrun ks⟩
      | ok =>
          rw [hjudged] at hrun
          have hended : ended = (ks.forM fun knob => applyKnob root knob kernel).runOn
              (leftBy root kernel [knob] s) :=
            Boot.runOn_forM_of_ok (f := fun knob => applyKnob root knob kernel) hrun ks
          -- What the rest comes to was settled before the first knob was set.
          have hrest := ih (leftBy root kernel [knob] s)
          simp only [answer_leftBy, leftBy_cons] at hrest
          obtain ⟨hall, hleft⟩ | ⟨before, other, after, e, rfl, hbefore, hother, hleft⟩ := hrest
          · exact .inl ⟨List.forall_mem_cons.2 ⟨hjudged, hall⟩, hended.trans hleft⟩
          · exact .inr ⟨knob :: before, other, after, e, rfl,
              List.forall_mem_cons.2 ⟨hjudged, hbefore⟩, hother, hended.trans hleft⟩

end Run

section Tuning

/-- How a knob may fail: its file is not opened, the write is refused, or it takes a part of the
value alone. -/
inductive Fails (root : Path) (m : Machine) (knob : Knob) : IoFault → Prop
  | unopened {fault : IoFault} (h : m.files.openAppend (knob.under root) = .error fault) :
      Fails root m knob fault
  | refused {place : Place} {code : Errno} (h : m.files.openAppend (knob.under root) = .ok place)
      (hcode : accepted m.writeLimit (encode knob.value).length = .error code) :
      Fails root m knob (.os code)
  | short {place : Place} {count : Nat} (h : m.files.openAppend (knob.under root) = .ok place)
      (hcount : accepted m.writeLimit (encode knob.value).length = .ok count)
      (hless : count < (encode knob.value).length) : Fails root m knob (.os .invalid)

def Tolerated (root : Path) (kernel : Version) (m : Machine) (knob : Knob) : Prop :=
  ∀ fault, Fails root m knob fault → kernel.atLeast knob.fatalFrom = false

theorem answer_eq_error_iff {fault : IoFault}
    (hregular : ∀ place, m.files.openAppend (knob.under root) = .ok place →
      ∃ content program, m.files.node? place = some (.file content program)) :
    answer root m knob = .error fault ↔ Fails root m knob fault := by
  cases hopen : m.files.openAppend (knob.under root) with
  | error closed =>
      simp only [answer, write, FileSystem.overwrite_of_closed hopen]
      constructor
      · intro h
        cases h
        exact .unopened hopen
      · intro h
        cases h with
        | unopened h => rw [Except.error.inj (hopen.symm.trans h)]
        | refused h | short h => cases hopen.symm.trans h
  | ok place =>
      obtain ⟨content, program, hfile⟩ := hregular place hopen
      rw [answer, write, FileSystem.overwrite_of_file hopen hfile]
      cases haccepted : accepted m.writeLimit (encode knob.value).length with
      | error code =>
          constructor
          · intro h
            cases h
            exact .refused hopen haccepted
          · intro h
            cases h with
            | unopened h => cases hopen.symm.trans h
            | refused _ h => cases haccepted.symm.trans h; rfl
            | short _ h => cases haccepted.symm.trans h
      | ok count =>
          have hle := FileSystem.accepted_le haccepted
          constructor
          · intro h
            simp only [Except.mapError] at h
            split_ifs at h with hall
            cases h
            exact .short hopen haccepted (by omega)
          · intro h
            cases h with
            | unopened h => cases hopen.symm.trans h
            | refused _ h => cases haccepted.symm.trans h
            | short _ h hless =>
                cases haccepted.symm.trans h
                simp only [Except.mapError, if_neg hless.ne]

theorem judge_eq_ok_iff {path : Path} {result : Except IoFault Unit} :
    judge path knob kernel result = .ok () ↔
      ∀ fault, result = .error fault → kernel.atLeast knob.fatalFrom = false := by
  cases result with
  | ok => simp [judge]
  | error fault => cases hfatal : kernel.atLeast knob.fatalFrom <;> simp [judge, hfatal]

theorem judge_eq_error_iff {path : Path} {result : Except IoFault Unit} {e : BootError} :
    judge path knob kernel result = .error e ↔
      ∃ fault, result = .error fault ∧ kernel.atLeast knob.fatalFrom = true ∧
        e = .sysctl path fault := by
  cases result with
  | ok => simp [judge]
  | error fault => cases hfatal : kernel.atLeast knob.fatalFrom <;> simp [judge, hfatal, eq_comm]

structure Retouches (root : Path) (m : Machine) (attempted : List Knob) (gs : FileSystem) : Prop
    extends Keeps m.files gs where
  elsewhere : ∀ place, (∀ knob ∈ attempted, m.files.openAppend (knob.under root) ≠ .ok place) →
    gs.node? place = m.files.node? place
  overlaid : ∀ knob ∈ attempted, ∀ {place content program},
    m.files.openAppend (knob.under root) = .ok place →
      m.files.node? place = some (.file content program) →
        gs.node? place =
          some (.file (overlaid m.writeLimit (encode knob.value) content) program)
  holds : ∀ knob ∈ attempted, (∀ fault, ¬Fails root m knob fault) →
    ∃ place content program, m.files.openAppend (knob.under root) = .ok place ∧
      m.files.node? place = some (.file content program) ∧
      gs.node? place =
        some (.file (encode knob.value ++ content.drop (encode knob.value).length) program)

theorem OwnFiles.of_append {later : List Knob} (h : OwnFiles root (ks ++ later) fs) :
    OwnFiles root ks fs :=
  ⟨fun knob hknob => h.regular knob (List.mem_append_left later hknob),
    (List.pairwise_append.1 h.own).1⟩

theorem OwnFiles.node?_later {later : List Knob} (h : OwnFiles root (ks ++ later) fs)
    (limit : Option Nat) (hlater : knob ∈ later) (place : Place)
    (hopen : fs.openAppend (knob.under root) = .ok place) :
    (setAll root limit ks fs).node? place = fs.node? place := by
  apply node?_setAll_of_ne
  intro first hfirst hsame
  exact (List.pairwise_append.1 h.own).2.2 first hfirst knob hlater place hsame hopen

theorem accepted_of_not_fails (hopen : m.files.openAppend (knob.under root) = .ok place)
    (h : ∀ fault, ¬Fails root m knob fault) :
    accepted m.writeLimit (encode knob.value).length = .ok (encode knob.value).length := by
  cases haccepted : accepted m.writeLimit (encode knob.value).length with
  | error code => exact absurd (.refused hopen haccepted) (h _)
  | ok count =>
      have hless : ¬count < (encode knob.value).length :=
        fun hless => h _ (.short hopen haccepted hless)
      have hle := FileSystem.accepted_le haccepted
      rw [show count = (encode knob.value).length by omega]

theorem retouches_setAll (h : OwnFiles root ks m.files) :
    Retouches root m ks (setAll root m.writeLimit ks m.files) := by
  refine ⟨keeps_setAll root m.writeLimit ks m.files, ?_, ?_, ?_⟩
  · exact fun place hplace => node?_setAll_of_ne m.writeLimit hplace
  · exact fun knob hknob place content program => node?_setAll_of_mem m.writeLimit h.own hknob
  · intro knob hknob hfails
    cases hopen : m.files.openAppend (knob.under root) with
    | error fault => exact absurd (.unopened hopen) (hfails fault)
    | ok place =>
        obtain ⟨content, program, hfile⟩ := h.regular knob hknob place hopen
        refine ⟨place, content, program, rfl, hfile, ?_⟩
        rw [node?_setAll_of_mem m.writeLimit h.own hknob hopen hfile, overlaid,
          accepted_of_not_fails hopen hfails]
        simp only [List.take_length]

theorem runOn_apply_of_lt {facts : Facts} (h : facts.api < 34) (s : BootState σ) :
    (apply root facts).runOn s = (.ok (), s) := by
  have hlevel : facts.apiAtLeast Api.u = false := decide_eq_false (UInt32.not_le.2 h)
  rw [apply, hlevel]
  rfl

theorem runOn_apply_of_le {facts : Facts} (h : 34 ≤ facts.api) (s : BootState σ) :
    (apply root facts).runOn s =
      (knobs.forM fun knob => applyKnob root knob facts.kernel).runOn s := by
  have hlevel : facts.apiAtLeast Api.u = true := decide_eq_true h
  rw [apply, hlevel]
  rfl

/-- Below level 34 nothing is done. Else the knobs are set in order up to the first one that fails
on a kernel on which it must not, and the error names that one; if there is none, all is well. Of
the files only those of the knobs that were set have changed, and none has come, gone or become
shorter. -/
theorem tuning_of_apply (root : Path) (facts : Facts) (s : BootState σ)
    (h : OwnFiles root knobs s.machine.files) :
    let m := s.machine
    let ended := (apply root facts).runOn s
    let gs := ended.2.machine.files
    (∀ knob ∈ knobs, ∀ fault, answer root m knob = .error fault ↔ Fails root m knob fault) ∧
      (facts.api < 34 → ended = (.ok (), s)) ∧
      (34 ≤ facts.api →
        (ended.1 = .ok () ↔ ∀ knob ∈ knobs, Tolerated root facts.kernel m knob) ∧
          ∃ attempted later, knobs = attempted ++ later ∧
            ended.2 = leftBy root facts.kernel attempted s ∧ Retouches root m attempted gs ∧
            (∀ knob ∈ later, ∀ place, m.files.openAppend (knob.under root) = .ok place →
              gs.node? place = m.files.node? place) ∧
            (ended.1 = .ok () ∧ later = [] ∨
              ∃ before knob fault, attempted = before ++ [knob] ∧
                (∀ other ∈ before, Tolerated root facts.kernel m other) ∧
                Fails root m knob fault ∧ facts.kernel.atLeast knob.fatalFrom = true ∧
                ended.1 = .error (.sysctl (knob.under root) fault))) := by
  intro m ended gs
  have hanswer : ∀ knob ∈ knobs, ∀ fault,
      answer root m knob = .error fault ↔ Fails root m knob fault :=
    fun knob hknob fault => answer_eq_error_iff (h.regular knob hknob)
  have htolerated : ∀ knob ∈ knobs,
      (judge (knob.under root) knob facts.kernel (answer root m knob) = .ok () ↔
        Tolerated root facts.kernel m knob) := by
    intro knob hknob
    rw [judge_eq_ok_iff]
    exact forall_congr' fun fault => by rw [hanswer knob hknob]
  refine ⟨hanswer, fun hlevel => ?_, fun hlevel => ?_⟩
  · exact runOn_apply_of_lt hlevel s
  have hended : ended = (knobs.forM fun knob => applyKnob root knob facts.kernel).runOn s :=
    runOn_apply_of_le hlevel s
  obtain ⟨hall, hleft⟩ | ⟨before, knob, later, e, hknobs, hbefore, hjudged, hleft⟩ :=
    runOn_forM_applyKnob root facts.kernel knobs s
  · have hrun : ended = (.ok (), leftBy root facts.kernel knobs s) := hended.trans hleft
    have hgs : gs = setAll root m.writeLimit knobs m.files := congrArg (·.2.machine.files) hrun
    rw [hgs, hrun]
    exact ⟨iff_of_true rfl fun knob hknob => (htolerated knob hknob).1 (hall knob hknob), knobs, [],
      (List.append_nil knobs).symm, rfl, retouches_setAll h, List.forall_mem_nil _, .inl ⟨rfl, rfl⟩⟩
  · have hrun : ended = (.error e, leftBy root facts.kernel (before ++ [knob]) s) :=
      hended.trans hleft
    have hgs : gs = setAll root m.writeLimit (before ++ [knob]) m.files :=
      congrArg (·.2.machine.files) hrun
    have hsplit : knobs = (before ++ [knob]) ++ later := by rw [hknobs, List.append_assoc]; rfl
    have hmem : knob ∈ knobs := hknobs ▸ List.mem_append_right before List.mem_cons_self
    obtain ⟨fault, hfault, hfatal, rfl⟩ := judge_eq_error_iff.1 hjudged
    have hfails := (hanswer knob hmem fault).1 hfault
    have hfiles : OwnFiles root ((before ++ [knob]) ++ later) m.files := hsplit ▸ h
    rw [hgs, hrun]
    refine ⟨iff_of_false nofun fun hall => ?_, before ++ [knob], later, hsplit, rfl,
      retouches_setAll hfiles.of_append, fun other => hfiles.node?_later m.writeLimit,
      .inr ⟨before, knob, fault, rfl, fun other hother => ?_, hfails, hfatal, rfl⟩⟩
    · exact Bool.false_ne_true ((hall knob hmem fault hfails).symm.trans hfatal)
    · exact (htolerated other (hknobs ▸ List.mem_append_left _ hother)).1 (hbefore other hother)

def sysRoot : Path := .ofString "/sys"

def coreFile (name : String) : Place := [encode name, encode "core", encode "net", encode "sys"]

def cramped : Machine :=
  { files :=
      (FileSystem.empty.plant (.ofString "/sys/net/core/bpf_jit_enable")
        (.file (encode "off\n") none)).plant (.ofString "/sys/net/core/bpf_jit_kallsyms")
        (.file (encode "off\n") none)
    umask := 0
    writeLimit := some 1 }

theorem ownFiles_cramped : OwnFiles sysRoot knobs cramped.files := by
  obtain ⟨hmissing, henable, hkallsyms⟩ :
      cramped.files.openAppend (sysRoot.join (.ofString "kernel/unprivileged_bpf_disabled")) =
          .error (.os .noEntry) ∧
        cramped.files.openAppend (sysRoot.join (.ofString "net/core/bpf_jit_enable")) =
          .ok (coreFile "bpf_jit_enable") ∧
        cramped.files.openAppend (sysRoot.join (.ofString "net/core/bpf_jit_kallsyms")) =
          .ok (coreFile "bpf_jit_kallsyms") := by
    decide +kernel
  obtain ⟨hfile, hfile', hne⟩ :
      cramped.files.node? (coreFile "bpf_jit_enable") = some (.file (encode "off\n") none) ∧
        cramped.files.node? (coreFile "bpf_jit_kallsyms") = some (.file (encode "off\n") none) ∧
        coreFile "bpf_jit_enable" ≠ coreFile "bpf_jit_kallsyms" := by
    decide +kernel
  generalize cramped.files = fs at hmissing henable hkallsyms hfile hfile' ⊢
  generalize coreFile "bpf_jit_enable" = enable at henable hfile hne
  generalize coreFile "bpf_jit_kallsyms" = kallsyms at hkallsyms hfile' hne
  constructor
  · simp only [knobs, List.forall_mem_cons, Knob.under]
    refine ⟨fun place h => ?_, fun place h => ?_, fun place h => ?_, List.forall_mem_nil _⟩
    · cases hmissing.symm.trans h
    · cases henable.symm.trans h
      exact ⟨_, _, hfile⟩
    · cases hkallsyms.symm.trans h
      exact ⟨_, _, hfile'⟩
  · simp only [knobs, List.pairwise_cons, List.forall_mem_cons, Knob.under]
    refine ⟨⟨fun place h => ?_, fun place h => ?_, List.forall_mem_nil _⟩,
      ⟨fun place h h' => ?_, List.forall_mem_nil _⟩, List.forall_mem_nil _, .nil⟩
    · cases hmissing.symm.trans h
    · cases hmissing.symm.trans h
    · exact hne (Except.ok.inj ((henable.symm.trans h).trans (h'.symm.trans hkallsyms)))

theorem tuning_of_apply_cramped :
    let facts : Facts := ⟨⟨5, 10, 0⟩, false, true, false, 34, .user⟩
    let s : BootState Unit := .start cramped ()
    let ended := (apply sysRoot facts).runOn s
    let gs := ended.2.machine.files
    OwnFiles sysRoot knobs s.machine.files ∧
      (ended.1 = .error (.sysctl (.ofString "/sys/net/core/bpf_jit_enable") (.os .invalid)) ∧
        gs.node? (coreFile "bpf_jit_enable") = some (.file (encode "1ff\n") none) ∧
        gs.node? (coreFile "bpf_jit_kallsyms") = some (.file (encode "off\n") none)) ∧
      Retouches sysRoot s.machine (knobs.take 2) gs := by
  intro facts s
  obtain ⟨-, -, htuned⟩ := tuning_of_apply sysRoot facts s ownFiles_cramped
  obtain ⟨-, attempted, later, hsplit, hleft, hretouches, -⟩ := htuned (by decide)
  have hlength : attempted.length = 2 := by
    have hset := length_effects_leftBy sysRoot facts.kernel attempted s
    have htwo : ((apply sysRoot facts).runOn s).2.effects.length = 2 := by decide +kernel
    have hnone : s.effects.length = 0 := rfl
    rw [← hleft] at hset
    omega
  have hattempted : attempted = knobs.take 2 := by rw [hsplit, ← hlength, List.take_left]
  rw [hattempted] at hretouches
  exact ⟨ownFiles_cramped, by decide +kernel, hretouches⟩

end Tuning

end Sysctl

end BpfBoot
