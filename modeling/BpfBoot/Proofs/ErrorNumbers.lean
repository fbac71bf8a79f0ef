import BpfBoot.Proofs.CriticalObjects
import BpfBoot.Proofs.Tour
import BpfBoot.Proofs.Walks

namespace BpfBoot

open Text (Octets)

def IoFault.IsPositive (fault : IoFault) : Prop := ∀ code, fault = .os code → 0 < code

theorem IoFault.isPositive_of_pos {code : Errno} (h : 0 < code) : (IoFault.os code).IsPositive := by
  intro other hother
  cases hother
  exact h

theorem IoFault.isPositive_of_ne_os {fault : IoFault} (h : ∀ code, fault ≠ .os code) :
    fault.IsPositive := fun code hcode => absurd hcode (h code)

namespace Errno

variable {errno : Errno}

theorem abs_of_pos (h : 0 < errno) : Int32.abs errno = errno := by
  have hpos : 0 < errno.toBitVec.toInt := Int32.lt_iff_toInt_lt.1 h
  apply Int32.toBitVec_inj.1
  rw [Int32.toBitVec_abs, BitVec.abs_eq, BitVec.msb_eq_toInt, if_neg]
  simpa using hpos.le

theorem toInt_neg_of_pos (h : 0 < errno) : (-errno).toInt = -errno.toInt := by
  have hpos : 0 < errno.toInt := Int32.lt_iff_toInt_lt.1 h
  have hle : errno.toInt < 2 ^ 31 := errno.toInt_lt
  rw [Int32.toInt_neg]
  apply Int.bmod_eq_of_le
  · omega
  · omega

end Errno

namespace FileSystem

variable {fs : FileSystem} {p : Path} {fault : IoFault}

theorem pos_of_mem_walkErrors {code : Errno} (h : code ∈ walkErrors) : 0 < code := by
  simp only [walkErrors, List.mem_cons, List.not_mem_nil, or_false] at h
  rcases h with rfl | rfl | rfl | rfl <;> decide

theorem IsWalkFault.isPositive (h : IsWalkFault fault) : fault.IsPositive := by
  rcases h with rfl | ⟨code, hcode, rfl⟩
  · exact IoFault.isPositive_of_ne_os (fun code hcode => nomatch hcode)
  · exact IoFault.isPositive_of_pos (pos_of_mem_walkErrors hcode)

theorem isPositive_of_read (h : fs.read p = .error fault) : fault.IsPositive := by
  rw [read] at h
  rcases bind_eq_error_iff.1 h with h | ⟨node, -, h⟩
  · exact (look_error h).isPositive
  rcases node with mode | ⟨content, program⟩ | target | _ | _ <;> cases h
  · exact IoFault.isPositive_of_pos (by decide)
  · exact IoFault.isPositive_of_pos (by decide)
  · exact IoFault.isPositive_of_ne_os (fun code hcode => nomatch hcode)

section Programs

variable {held : List Place} {otherwise : Option Runner}

theorem isPositive_of_program (h : fs.program held p = .error fault) : fault.IsPositive := by
  rw [program] at h
  rcases bind_eq_error_iff.1 h with h | ⟨place, -, h⟩
  · exact (resolve_error h).isPositive
  split at h
  · split at h
    · cases h
      exact IoFault.isPositive_of_pos (by decide)
    · cases h
  · cases h
    exact IoFault.isPositive_of_pos (by decide)

theorem isPositive_of_start (h : fs.start held otherwise p = .error fault) : fault.IsPositive := by
  rw [start] at h
  rcases bind_eq_error_iff.1 h with h | ⟨⟨content, ending⟩, -, h⟩
  · exact isPositive_of_program h
  dsimp only at h
  split at h
  · cases h
    exact IoFault.isPositive_of_pos (by decide)
  · cases h
  · rcases bind_eq_error_iff.1 h with h | ⟨-, -, h⟩
    · exact isPositive_of_program h
    · cases h

theorem isPositive_of_startFirst {start : Path → Except IoFault Termination}
    (hstart : ∀ {q fault}, start q = .error fault → fault.IsPositive) {denied : Bool}
    {paths : List Path} (h : startFirst start denied paths = .error fault) : fault.IsPositive := by
  induction paths generalizing denied with
  | nil =>
      cases h
      cases denied
      · exact IoFault.isPositive_of_pos (by decide)
      · exact IoFault.isPositive_of_pos (by decide)
  | cons q rest ih =>
      rw [startFirst] at h
      split at h
      · cases h
      next other hq =>
      split at h
      · exact ih h
      split at h
      · exact ih h
      · cases h
        exact hstart hq

theorem isPositive_of_execute {search : SearchPath}
    (h : fs.execute held otherwise search p = .error fault) : fault.IsPositive := by
  unfold execute at h
  split at h
  · cases h
    exact IoFault.isPositive_of_ne_os (fun code hcode => nomatch hcode)
  split at h
  · rcases hp : fs.start held otherwise p with other | ending
    · rw [hp] at h
      cases h
      exact isPositive_of_start hp
    · rw [hp] at h
      cases h
  split at h
  · cases h
    exact IoFault.isPositive_of_pos (by decide)
  split at h
  · cases h
    exact IoFault.isPositive_of_pos (by decide)
  · exact isPositive_of_startFirst isPositive_of_start h

end Programs

end FileSystem

namespace Load

variable {σ : Type}

theorem isPositive_of_spawn {program : Path} {arguments : List Octets} {w : Machine × σ}
    {fault : IoFault} (h : (spawn program arguments w).1 = .error fault) : fault.IsPositive := by
  rw [spawn_eq] at h
  unfold Machine.run at h
  split at h
  · cases h
    exact IoFault.isPositive_of_ne_os (fun code hcode => nomatch hcode)
  dsimp only at h
  split at h
  · next hexecute =>
    cases h
    exact FileSystem.isPositive_of_execute hexecute
  · cases h

def Outcome.IsPositive (outcome : Outcome) : Prop :=
  ∀ errno critical, outcome = .failed errno critical → 0 < errno

/-- The number that a fault is told by: its own, or that of an input/output error. -/
inductive ToldBy : IoFault → Errno → Prop
  | own (errno) : ToldBy (.os errno) errno
  | lacking {fault} (h : ∀ code, fault ≠ .os code) : ToldBy fault .inputOutput

theorem errnoOf_eq_iff {fault : IoFault} {errno : Errno} :
    errnoOf fault = errno ↔ ToldBy fault errno := by
  constructor
  · rintro rfl
    cases fault with
    | os code => exact .own code
    | nulInPath | nulInArgument | notText | outOfMemory | other =>
        exact .lacking fun code hcode => nomatch hcode
  · intro h
    cases h with
    | own => rfl
    | lacking h =>
        cases fault with
        | os code => exact absurd rfl (h code)
        | nulInPath | nulInArgument | notText | outOfMemory | other => rfl

theorem ToldBy.pos {fault : IoFault} {errno : Errno} (h : ToldBy fault errno)
    (hfault : fault.IsPositive) : 0 < errno := by
  cases h with
  | own => exact hfault errno rfl
  | lacking => decide

inductive HelperFails : Except IoFault Termination → Errno → Prop
  | exited {status errno} (hstatus : status ≠ 0) (herrno : errno.toInt = status.toNat) :
      HelperFails (.ok (.exited status)) errno
  | killed (signal) : HelperFails (.ok (.killed signal)) .inputOutput
  | unstarted {fault errno} (h : ToldBy fault errno) : HelperFails (.error fault) errno

theorem toInt_ofNat_status (status : UInt8) : (Int32.ofNat status.toNat).toInt = status.toNat := by
  have hlt : status.toNat < 2 ^ 8 := status.toNat_lt
  exact Int32.toInt_ofNat_of_lt (by omega)

theorem outcomeOf_eq_failed_iff {critical grave : Bool} {ending : Except IoFault Termination}
    {errno : Errno} :
    outcomeOf critical ending = .failed errno grave ↔ HelperFails ending errno ∧ grave = critical := by
  constructor
  · intro h
    rcases ending with fault | status | signal
    · cases h
      exact ⟨.unstarted (errnoOf_eq_iff.1 rfl), rfl⟩
    · rw [outcomeOf] at h
      split at h
      · cases h
      · next hstatus =>
        cases h
        exact ⟨.exited hstatus (toInt_ofNat_status status), rfl⟩
    · cases h
      exact ⟨.killed signal, rfl⟩
  · rintro ⟨h, rfl⟩
    cases h with
    | @exited status errno hstatus herrno =>
        have hsame : Int32.ofNat status.toNat = errno := by
          apply Int32.toInt_inj.1
          rw [toInt_ofNat_status, herrno]
        rw [outcomeOf, if_neg hstatus, hsame]
    | killed => rfl
    | unstarted h => rw [outcomeOf, errnoOf_eq_iff.2 h]

theorem HelperFails.pos {ending : Except IoFault Termination} {errno : Errno}
    (h : HelperFails ending errno) (hending : ∀ fault, ending = .error fault → fault.IsPositive) :
    0 < errno := by
  cases h with
  | @exited status errno hstatus herrno =>
      have hne : status.toNat ≠ 0 := fun h0 => hstatus (UInt8.toNat_inj.1 h0)
      apply Int32.lt_iff_toInt_lt.2
      rw [herrno, Int32.toInt_zero]
      omega
  | killed => decide
  | @unstarted fault errno h => exact h.pos (hending fault rfl)

/-- How an object comes to be left unloaded, with what number, and whether the boot can do without
it. `ends` is how a program ends that is run on the object. -/
inductive Fails (helper : Option Path) (ends : Path → Except IoFault Termination) :
    Except IoFault Octets → Errno → Bool → Prop
  | unreadable {fault errno} (h : ToldBy fault errno) : Fails helper ends (.error fault) errno false
  | malformed {bytes fault} (h : Object.sectionNames bytes = .error fault) :
      Fails helper ends (.ok bytes) .badFormat false
  | helperless {bytes sections} (hsections : Object.sectionNames bytes = .ok sections)
      (hhelper : helper = none) :
      Fails helper ends (.ok bytes) .notImplemented (sections.contains "critical")
  | failed {bytes sections program errno} (hsections : Object.sectionNames bytes = .ok sections)
      (hhelper : helper = some program) (h : HelperFails (ends program) errno) :
      Fails helper ends (.ok bytes) errno (sections.contains "critical")

theorem Fails.pos {helper : Option Path} {ends : Path → Except IoFault Termination}
    {content : Except IoFault Octets} {errno : Errno} {critical : Bool}
    (h : Fails helper ends content errno critical)
    (hcontent : ∀ fault, content = .error fault → fault.IsPositive)
    (hends : ∀ program fault, ends program = .error fault → fault.IsPositive) : 0 < errno := by
  cases h with
  | @unreadable fault errno h => exact h.pos (hcontent fault rfl)
  | malformed => decide
  | helperless => decide
  | @failed bytes sections program errno hsections hhelper h => exact h.pos (hends program)

section Loader

variable {spawn : Spawn σ} {helper : Option Path}

theorem elfLoader_eq_failed_iff {path : Path} {location : Location} {v : Machine × σ}
    {errno : Errno} {critical : Bool} :
    (elfLoader spawn helper path location v).1.value = .failed errno critical ↔
      Fails helper (fun program => (spawn program [path.bytes, Text.encode location.pin] v).1)
        (v.1.files.read path) errno critical := by
  rcases hread : v.1.files.read path with fault | bytes
  · rw [elfLoader_of_unreadable hread]
    constructor
    · intro h
      cases h
      exact .unreadable (errnoOf_eq_iff.1 rfl)
    · intro h
      cases h with
      | unreadable h => rw [← errnoOf_eq_iff.2 h]; rfl
  rcases hsections : Object.sectionNames bytes with fault | sections
  · have hbytes : Object.isCritical bytes = .error fault := by
      rw [Object.isCritical, hsections]
      rfl
    rw [(elfLoader_of_malformed hread hbytes).1]
    constructor
    · intro h
      cases h
      exact .malformed hsections
    · intro h
      cases h with
      | malformed => rfl
      | helperless hnames | failed hnames => cases hsections.symm.trans hnames
  have hbytes : Object.isCritical bytes = .ok (sections.contains "critical") := by
    rw [Object.isCritical, hsections]
    rfl
  cases helper with
  | none =>
      rw [(elfLoader_of_none hread hbytes).1]
      constructor
      · intro h
        cases h
        exact .helperless hsections rfl
      · intro h
        cases h with
        | malformed hnames => cases hsections.symm.trans hnames
        | helperless hnames => cases hsections.symm.trans hnames; rfl
        | failed hnames hhelper => cases hhelper
  | some program =>
      rw [elfLoader_of_some hread hbytes]
      refine outcomeOf_eq_failed_iff.trans ?_
      constructor
      · rintro ⟨h, rfl⟩
        exact .failed hsections rfl h
      · intro h
        cases h with
        | malformed hnames => cases hsections.symm.trans hnames
        | helperless hnames hhelper => cases hhelper
        | failed hnames hhelper h =>
            cases hsections.symm.trans hnames
            cases hhelper
            exact ⟨h, rfl⟩

end Loader

theorem forall_attempts {loader : Loader σ} {location : Location} {P : Outcome → Prop}
    (h : ∀ path v, P (loader path location v).1.value) (names : List Path.Name) (w : Machine × σ) :
    ∀ a ∈ (attempts loader location names w).1, P a.2.value := by
  induction names generalizing w with
  | nil => exact List.forall_mem_nil _
  | cons name names ih =>
      rw [attempts_cons]
      exact List.forall_mem_cons.2 ⟨h _ w, ih _⟩

/-- What the error that ends a sweep tells of the location that failed. -/
theorem runOn_loadAll_eq_error {loader : Loader σ} {stall : Stall σ} {seconds : Nat}
    {locations : List Location} {s : BootState σ} {e : BootError}
    (h : ((loadAll loader stall seconds locations).runOn s).1 = .error e) :
    ∃ index location errno, locations[index]? = some location ∧
      let before := tour loader (locations.take index) (s.machine, s.outside)
      (∀ u ∈ before.1, ¬u.IsCritical) ∧
        (visit loader location before.2).1.criticals.getLast? = some errno ∧
        e = .criticalLoad location.dir errno := by
  obtain ⟨-, log, hrun⟩ | ⟨index, v, errno, log, hv, hbefore, herrno, hrun⟩ :=
    runOn_loadAll_tour loader stall seconds locations s
  · rw [hrun] at h
    cases h
  · rw [hrun] at h
    cases h
    obtain ⟨hlocation, hvisit⟩ := eq_visit_of_tour hv
    rw [← tour_take] at hbefore
    refine ⟨index, v.location, errno, hlocation, hbefore, ?_, rfl⟩
    rwa [← hvisit]

/-- A failed load has a positive number, the one that the failure is told by, for every object and
every helper whose faults have positive numbers. The number of the last critical failure of a
location ends the sweep, and the error has it with its sign turned and its value unchanged. -/
theorem numbers_of_failures {spawn : Spawn σ}
    (hspawn : ∀ program arguments w fault, (spawn program arguments w).1 = .error fault →
      fault.IsPositive) (helper : Option Path) :
    let loader := elfLoader spawn helper
    (∀ path location w, (loader path location w).1.value.IsPositive ∧
        ∀ errno critical, (loader path location w).1.value = .failed errno critical ↔
          Fails helper (fun program => (spawn program [path.bytes, Text.encode location.pin] w).1)
            (w.1.files.read path) errno critical) ∧
      ∀ stall seconds locations s e,
        ((loadAll loader stall seconds locations).runOn s).1 = .error e →
          ∃ index location errno, locations[index]? = some location ∧
            let before := tour loader (locations.take index) (s.machine, s.outside)
            (∀ u ∈ before.1, ¬u.IsCritical) ∧
              (visit loader location before.2).1.criticals.getLast? = some errno ∧
              e = .criticalLoad location.dir errno ∧ e.errno? = some (-errno) ∧ 0 < errno ∧
              (Int32.abs errno).toInt = |errno.toInt| ∧
              (-Int32.abs errno).toInt = -errno.toInt := by
  intro loader
  have hpos (path : Path) (location : Location) (w : Machine × σ) :
      (loader path location w).1.value.IsPositive := by
    intro errno critical h
    apply (elfLoader_eq_failed_iff.1 h).pos
    · exact fun _ hread => FileSystem.isPositive_of_read hread
    · exact fun _ _ hends => hspawn _ _ _ _ hends
  refine ⟨fun path location w => ⟨hpos path location w, fun _ _ => elfLoader_eq_failed_iff⟩, ?_⟩
  intro stall seconds locations s e h
  obtain ⟨index, location, errno, hlocation, hbefore, herrno, rfl⟩ := runOn_loadAll_eq_error h
  obtain ⟨a, ha, hfailed⟩ := List.mem_map.1 (exists_critical ((Visit.critical_report _).trans herrno))
  have herrnoPos : 0 < errno :=
    forall_attempts (fun path v => hpos path location v) _ _ a ha errno true hfailed
  have habs := Errno.abs_of_pos herrnoPos
  have hint : 0 < errno.toInt := Int32.lt_iff_toInt_lt.1 herrnoPos
  refine ⟨index, location, errno, hlocation, hbefore, herrno, rfl, ?_, herrnoPos, ?_, ?_⟩
  · rw [BootError.errno?, habs]
  · rw [habs, abs_of_pos hint]
  · rw [habs, Errno.toInt_neg_of_pos herrnoPos]

theorem numbers_of_failures_absent :
    let loader : Loader Unit := elfLoader spawn (some (.ofString "/g"))
    let ended := (loadAll loader (fun _ => pure ()) 5 [⟨.ofString "/d", "p"⟩]).runOn (.start stranded ())
    let e := BootError.criticalLoad (.ofString "/d") .noEntry
    (∀ program arguments (w : Machine × Unit) fault, (spawn program arguments w).1 = .error fault →
        fault.IsPositive) ∧ ended.1 = .error e ∧ e.errno? = some (-2) := by
  intro loader ended e
  have hspawn : ∀ program arguments (w : Machine × Unit) fault,
      (spawn program arguments w).1 = .error fault → fault.IsPositive :=
    fun _ _ _ _ h => isPositive_of_spawn h
  have hended : ended.1 = .error e := by decide +kernel
  refine ⟨hspawn, hended, ?_⟩
  obtain ⟨index, location, errno, -, -, -, he, herrno, -⟩ :=
    (numbers_of_failures hspawn (some (.ofString "/g"))).2 _ _ _ _ _ hended
  obtain ⟨-, rfl⟩ := BootError.criticalLoad.inj he
  exact herrno

end Load

end BpfBoot
