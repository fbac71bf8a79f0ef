import BpfBoot.Load.Helper
import BpfBoot.Object.Builder
import BpfBoot.Proofs.Decoding
import BpfBoot.Proofs.Sweep

namespace BpfBoot.Load

open Text (Octets)

variable {σ : Type}

/-- The states that runs of the helper lead to. -/
inductive Spawned (spawn : Spawn σ) (helper : Option Path) (w : Machine × σ) : Machine × σ → Prop
  | refl : Spawned spawn helper w w
  | step {v program} (h : Spawned spawn helper w v) (hprogram : helper = some program) (arguments) :
      Spawned spawn helper w (spawn program arguments v).2

/-- How the helper ends depends on its arguments alone, and it leaves the objects of the locations
as they are. -/
structure Steady (spawn : Spawn σ) (helper : Option Path)
    (ends : List Octets → Except IoFault Termination) (locations : List Location)
    (w : Machine × σ) : Prop where
  ends : ∀ {v}, Spawned spawn helper w v → ∀ {program}, helper = some program → ∀ arguments,
    (spawn program arguments v).1 = ends arguments
  lists : ∀ {v}, Spawned spawn helper w v → ∀ location ∈ locations,
    v.1.files.list location.dir = w.1.files.list location.dir
  reads : ∀ {v}, Spawned spawn helper w v → ∀ location ∈ locations, ∀ {names},
    w.1.files.list location.dir = .ok names → ∀ name ∈ names,
      v.1.files.read (location.dir.join ⟨name⟩) = w.1.files.read (location.dir.join ⟨name⟩)

/-- An object with a section named `critical`, for which no helper is run or none ends well. -/
def IsLost (ends : List Octets → Except IoFault Termination) (helper : Option Path)
    (fs : FileSystem) (location : Location) (name : Path.Name) : Prop :=
  ∃ bytes sections, fs.read (location.dir.join ⟨name⟩) = .ok bytes ∧
    Object.sectionNames bytes = .ok sections ∧ "critical" ∈ sections ∧
    (helper = none ∨ ∃ program, helper = some program ∧
      ends [(location.dir.join ⟨name⟩).bytes, Text.encode location.pin] ≠ .ok (.exited 0))

def LosesObject (ends : List Octets → Except IoFault Termination) (helper : Option Path)
    (fs : FileSystem) (location : Location) : Prop :=
  ∃ names, fs.list location.dir = .ok names ∧
    ∃ name ∈ names, rawSuffix <:+ name ∧ IsLost ends helper fs location name

section Loader

variable {spawn : Spawn σ} {helper : Option Path} {path : Path} {location : Location}
  {v : Machine × σ} {bytes : Octets}

theorem elfLoader_of_unreadable {fault : IoFault} (h : v.1.files.read path = .error fault) :
    elfLoader spawn helper path location v = (pure (.failed (errnoOf fault) false), v) := by
  simp only [elfLoader, bind, StateT.bind, get, getThe, MonadStateOf.get, StateT.get, h, pure,
    StateT.pure]

theorem elfLoader_of_malformed {fault : Object.Fault} (h : v.1.files.read path = .ok bytes)
    (hbytes : Object.isCritical bytes = .error fault) :
    (elfLoader spawn helper path location v).1.value = .failed .badFormat false ∧
      (elfLoader spawn helper path location v).2 = v := by
  simp only [elfLoader, bind, StateT.bind, get, getThe, MonadStateOf.get, StateT.get, h, hbytes,
    pure, StateT.pure, and_self]

theorem elfLoader_of_none {critical : Bool} (h : v.1.files.read path = .ok bytes)
    (hbytes : Object.isCritical bytes = .ok critical) :
    (elfLoader spawn none path location v).1.value = .failed .notImplemented critical ∧
      (elfLoader spawn none path location v).2 = v := by
  simp only [elfLoader, bind, StateT.bind, get, getThe, MonadStateOf.get, StateT.get, h, hbytes,
    pure, StateT.pure, and_self]

theorem elfLoader_of_some {critical : Bool} {program : Path} (h : v.1.files.read path = .ok bytes)
    (hbytes : Object.isCritical bytes = .ok critical) :
    elfLoader spawn (some program) path location v =
      (pure (outcomeOf critical (spawn program [path.bytes, Text.encode location.pin] v).1),
        (spawn program [path.bytes, Text.encode location.pin] v).2) := by
  simp only [elfLoader, bind, StateT.bind, get, getThe, MonadStateOf.get, StateT.get, h, hbytes,
    pure, StateT.pure]
  rfl

theorem spawned_elfLoader {w : Machine × σ} (hv : Spawned spawn helper w v) :
    Spawned spawn helper w (elfLoader spawn helper path location v).2 := by
  rcases hread : v.1.files.read path with fault | bytes
  · rw [elfLoader_of_unreadable hread]
    exact hv
  rcases hbytes : Object.isCritical bytes with fault | critical
  · rw [(elfLoader_of_malformed hread hbytes).2]
    exact hv
  cases helper with
  | none =>
      rw [(elfLoader_of_none hread hbytes).2]
      exact hv
  | some program =>
      rw [elfLoader_of_some hread hbytes]
      exact hv.step rfl _

theorem outcomeOf_failed_iff {critical : Bool} {ending : Except IoFault Termination} :
    (∃ errno, outcomeOf critical ending = .failed errno true) ↔
      critical = true ∧ ending ≠ .ok (.exited 0) := by
  rcases ending with fault | status | signal
  · simp [outcomeOf]
  · by_cases hstatus : status = 0 <;> simp [outcomeOf, hstatus]
  · simp [outcomeOf]

theorem isCritical_eq_ok_iff {critical : Bool} :
    Object.isCritical bytes = .ok critical ↔
      ∃ sections, Object.sectionNames bytes = .ok sections ∧
        (critical = true ↔ "critical" ∈ sections) := by
  rw [Object.isCritical]
  rcases Object.sectionNames bytes with _ | sections
  · simp [Except.map]
  · cases critical <;> simp [Except.map, Object.criticalName]

theorem elfLoader_failed_iff {ends : List Octets → Except IoFault Termination}
    {name : Path.Name}
    (hends : ∀ {program}, helper = some program → ∀ arguments,
      (spawn program arguments v).1 = ends arguments) :
    (∃ errno, (elfLoader spawn helper (location.dir.join ⟨name⟩) location v).1.value =
        .failed errno true) ↔
      IsLost ends helper v.1.files location name := by
  rw [IsLost]
  -- The cases are the ones in which the loader ends: at the file, its sections, or the helper.
  generalize hpath : location.dir.join ⟨name⟩ = path
  rcases hread : v.1.files.read path with fault | bytes
  · rw [elfLoader_of_unreadable hread]
    simp
  rcases hbytes : Object.isCritical bytes with fault | critical
  · have hnone (sections : List String) : Object.sectionNames bytes ≠ .ok sections := fun h => by
      rw [Object.isCritical, h] at hbytes
      cases hbytes
    rw [(elfLoader_of_malformed hread hbytes).1]
    simp [hnone]
  obtain ⟨sections, hsections, hcritical⟩ := isCritical_eq_ok_iff.1 hbytes
  cases helper with
  | none =>
      rw [(elfLoader_of_none hread hbytes).1]
      simp [hsections, hcritical]
  | some program =>
      rw [elfLoader_of_some hread hbytes, hends rfl]
      simp [hsections, hcritical, outcomeOf_failed_iff]

end Loader

theorem mem_objectsIn_iff {fs : FileSystem} {dir : Path} {name : Path.Name} :
    name ∈ objectsIn fs dir ↔ ∃ names, fs.list dir = .ok names ∧ name ∈ names ∧ rawSuffix <:+ name := by
  rw [objectsIn]
  rcases fs.list dir with _ | names
  · simp
  · simp [objectNames, isObjectName_iff, Except.toOption]

theorem spawn_eq (program : Path) (arguments : List Octets) (v : Machine × σ) :
    spawn program arguments v =
      ((v.1.run none program arguments).1, (v.1.run none program arguments).2, v.2) := rfl

theorem run_cases (program : Path) (arguments : List Octets) (m : Machine) :
    (∃ runs, (m.run none program arguments).2 = { m with runs }) ∧
      ∀ runs, (Machine.run none program arguments { m with runs }).1 =
        (m.run none program arguments).1 := by
  unfold Machine.run
  split
  · exact ⟨⟨m.runs, rfl⟩, fun _ => rfl⟩
  · dsimp only
    split
    · exact ⟨⟨m.runs, rfl⟩, fun _ => rfl⟩
    · exact ⟨⟨_, rfl⟩, fun _ => rfl⟩

theorem spawned_spawn {helper : Option Path} {w v : Machine × σ} (h : Spawned spawn helper w v) :
    ∃ runs, v.1 = { w.1 with runs } := by
  induction h with
  | refl => exact ⟨w.1.runs, rfl⟩
  | @step v program _ _ arguments ih =>
      obtain ⟨runs, hv⟩ := ih
      obtain ⟨⟨runs', h⟩, -⟩ := run_cases program arguments v.1
      exact ⟨runs', by rw [spawn_eq, h, hv]⟩

/-- The machine's own programs are such helpers. -/
theorem steady_spawn (helper : Path) (locations : List Location) (w : Machine × σ) :
    Steady spawn (some helper) (fun arguments => (w.1.run none helper arguments).1) locations w := by
  refine ⟨fun {v} hv program hprogram arguments => ?_, fun {v} hv location _ => ?_,
    fun {v} hv location _ names _ name _ => ?_⟩
  · cases hprogram
    obtain ⟨runs, hv⟩ := spawned_spawn hv
    rw [spawn_eq, hv, (run_cases helper arguments w.1).2]
  · obtain ⟨runs, hv⟩ := spawned_spawn hv
    rw [hv]
  · obtain ⟨runs, hv⟩ := spawned_spawn hv
    rw [hv]

section Sweep

variable {spawn : Spawn σ} {helper : Option Path}
  {ends : List Octets → Except IoFault Termination} {locations : List Location} {w v : Machine × σ}

theorem Steady.isLost_iff (h : Steady spawn helper ends locations w) (hv : Spawned spawn helper w v)
    {location : Location} (hlocation : location ∈ locations) {names : List Path.Name}
    (hlist : w.1.files.list location.dir = .ok names) {name : Path.Name} (hname : name ∈ names) :
    IsLost ends helper v.1.files location name ↔ IsLost ends helper w.1.files location name := by
  rw [IsLost, IsLost, h.reads hv location hlocation hlist name hname]

theorem attempts_failed_iff (h : Steady spawn helper ends locations w)
    {location : Location} (hlocation : location ∈ locations) {all : List Path.Name}
    (hlist : w.1.files.list location.dir = .ok all) {names : List Path.Name} (hnames : names ⊆ all)
    (hv : Spawned spawn helper w v) :
    ((∃ a ∈ (attempts (elfLoader spawn helper) location names v).1, ∃ errno,
          a.2.value = .failed errno true) ↔
        ∃ name ∈ names, IsLost ends helper w.1.files location name) ∧
      Spawned spawn helper w (attempts (elfLoader spawn helper) location names v).2 := by
  induction names generalizing v with
  | nil => exact ⟨by simp [attempts], hv⟩
  | cons name names ih =>
      obtain ⟨hname, hrest⟩ := List.cons_subset.1 hnames
      obtain ⟨ihfailed, ihspawned⟩ := ih hrest (spawned_elfLoader hv)
      refine ⟨?_, ihspawned⟩
      simp only [attempts_cons, List.mem_cons, or_and_right, exists_or, exists_eq_left, ihfailed,
        elfLoader_failed_iff (h.ends hv), h.isLost_iff hv hlocation hlist hname]

theorem visit_isCritical_iff (h : Steady spawn helper ends locations w)
    {location : Location} (hlocation : location ∈ locations) (hv : Spawned spawn helper w v) :
    ((visit (elfLoader spawn helper) location v).1.IsCritical ↔
        LosesObject ends helper w.1.files location) ∧
      Spawned spawn helper w (visit (elfLoader spawn helper) location v).2 := by
  have hlists := h.lists hv location hlocation
  rcases hlist : w.1.files.list location.dir with fault | all
  · have hnone : objectsIn v.1.files location.dir = [] := by rw [objectsIn, hlists, hlist]
    simp only [visit, hnone, attempts]
    refine ⟨iff_of_false ?_ ?_, hv⟩
    · rintro ⟨errno, herrno⟩
      cases herrno
    · rintro ⟨names, hnames, -⟩
      cases hlist.symm.trans hnames
  · have hmem {name : Path.Name} : name ∈ objectsIn v.1.files location.dir ↔
        name ∈ all ∧ rawSuffix <:+ name := by
      rw [mem_objectsIn_iff, hlists, hlist]
      simp
    obtain ⟨hfailed, hspawned⟩ := attempts_failed_iff h hlocation hlist
      (fun name hname => (hmem.1 hname).1) hv
    refine ⟨?_, hspawned⟩
    rw [Visit.isCritical_iff, LosesObject]
    refine hfailed.trans ?_
    simp [hlist, hmem, and_assoc]

theorem visits_isCritical_iff (h : Steady spawn helper ends locations w)
    {rest : List Location} (hrest : rest ⊆ locations) (hv : Spawned spawn helper w v) :
    (∃ u ∈ (visits (elfLoader spawn helper) rest v).1, u.IsCritical) ↔
      ∃ location ∈ rest, LosesObject ends helper w.1.files location := by
  induction rest generalizing v with
  | nil => simp [visits]
  | cons location rest ih =>
      obtain ⟨hlocation, hrest⟩ := List.cons_subset.1 hrest
      obtain ⟨hvisit, hspawned⟩ := visit_isCritical_iff h hlocation hv
      rw [visits_cons]
      by_cases hloses : LosesObject ends helper w.1.files location
      · refine iff_of_true ?_ ⟨location, List.mem_cons_self, hloses⟩
        have hcritical := hvisit.2 hloses
        simp [Visit.isSuccess_iff, hcritical]
      · have hcritical := mt hvisit.1 hloses
        simp [Visit.isSuccess_iff, hcritical, hloses, ih hrest hspawned]

/-- A sweep ends in a critical failure just when some location has a critical object that can be
read and is not loaded; else it comes to a good end, whatever else may have failed. -/
theorem loadAll_criticalLoad_iff {s : BootState σ}
    (h : Steady spawn helper ends locations (s.machine, s.outside)) (stall : Stall σ)
    (seconds : Nat) :
    ((∃ dir errno, ((loadAll (elfLoader spawn helper) stall seconds locations).runOn s).1 =
          .error (.criticalLoad dir errno)) ↔
        ∃ location ∈ locations, LosesObject ends helper s.machine.files location) ∧
      (((loadAll (elfLoader spawn helper) stall seconds locations).runOn s).1 = .ok () ↔
        ¬∃ location ∈ locations, LosesObject ends helper s.machine.files location) := by
  have hlost := visits_isCritical_iff h (List.Subset.refl locations) .refl
  rw [← hlost]
  obtain ⟨hnone, log, hrun⟩ | ⟨u, hu, hcritical, errno, log, hrun⟩ :=
    runOn_loadAll (elfLoader spawn helper) stall seconds locations s rfl <;>
    rw [hrun]
  · have hno : ¬∃ u ∈ (visits (elfLoader spawn helper) locations (s.machine, s.outside)).1,
        u.IsCritical := fun ⟨u, hu, hcritical⟩ => hnone u hu hcritical
    exact ⟨iff_of_false (fun ⟨_, _, hbad⟩ => nomatch hbad) hno, iff_of_true rfl hno⟩
  · exact ⟨iff_of_true ⟨_, _, rfl⟩ ⟨u, hu, hcritical⟩,
      iff_of_false (fun hok => nomatch hok) fun hno => hno ⟨u, hu, hcritical⟩⟩

end Sweep

def stranded : Machine where
  files :=
    let object := Object.build ["critical"]
    let code := Object.magic ++ List.replicate 12 0 ++ [2, 0]
    ((FileSystem.empty.put [[0x68]] (.file code (some (.exited 1)))).put [[0x64]]
      (.directory 0o755)).put [[0x63, 0x2E, 0x6F], [0x64]] (.file object none)
  umask := 0

theorem criticalLoad_stranded :
    ∃ dir errno, ((loadAll (elfLoader spawn (some (.ofString "/h"))) (fun _ => pure ()) 5
      [⟨.ofString "/d", "p"⟩]).runOn (.start stranded ())).1 = .error (.criticalLoad dir errno) := by
  have hsteady := steady_spawn (.ofString "/h") [⟨.ofString "/d", "p"⟩] (stranded, ())
  have hends : (stranded.run none (.ofString "/h") [Text.encode "/d/c.o", Text.encode "p"]).1 =
      .ok (.exited 1) := rfl
  have hsections : (Object.sectionNames (Object.build ["critical"])).toOption =
      some ["", "critical", ".shstrtab"] := by
    decide +kernel
  rcases hnames : Object.sectionNames (Object.build ["critical"]) with _ | sections <;>
    rw [hnames] at hsections <;> cases hsections
  exact (loadAll_criticalLoad_iff (s := .start stranded ()) hsteady (fun _ => pure ()) 5).1.2
    ⟨_, List.mem_cons_self, [[0x63, 0x2E, 0x6F]], rfl, _, List.mem_cons_self, ⟨[0x63], rfl⟩, _, _,
      rfl, hnames, by simp, .inr ⟨_, rfl, fun hok => nomatch hends.symm.trans hok⟩⟩

end BpfBoot.Load
