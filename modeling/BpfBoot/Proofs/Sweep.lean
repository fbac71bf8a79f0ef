import BpfBoot.Load.Sweep
import BpfBoot.Proofs.Steps

namespace BpfBoot.Load

variable {σ τ : Type} {rel : σ → τ → Prop}

/-- A path that the loader was called on, and its answer. -/
abbrev Attempt := Path × Logged Outcome

def attempts (loader : Loader σ) (location : Location) :
    List Path.Name → Machine × σ → List Attempt × (Machine × σ)
  | [], w => ([], w)
  | name :: names, w =>
    let path := location.dir.join ⟨name⟩
    let (outcome, w) := loader path location w
    let (others, w) := attempts loader location names w
    ((path, outcome) :: others, w)

theorem attempts_cons (loader : Loader σ) (location : Location) (name : Path.Name)
    (names : List Path.Name) (w : Machine × σ) :
    attempts loader location (name :: names) w =
      let called := loader (location.dir.join ⟨name⟩) location w
      ((location.dir.join ⟨name⟩, called.1) :: (attempts loader location names called.2).1,
        (attempts loader location names called.2).2) := rfl

structure Visit where
  location : Location
  attempts : List Attempt

namespace Visit

def outcomes (v : Visit) : List Outcome := v.attempts.map fun a => a.2.value

def report (v : Visit) : Report := v.outcomes.foldl Report.add .empty

def effects (v : Visit) : List Effect := v.attempts.map fun a => .load a.1 v.location

def IsCritical (v : Visit) : Prop := ∃ errno, Outcome.failed errno true ∈ v.outcomes

end Visit

theorem critical_foldl_add (outcomes : List Outcome) (r : Report) :
    (outcomes.foldl Report.add r).critical = none ↔
      r.critical = none ∧ ∀ errno, Outcome.failed errno true ∉ outcomes := by
  induction outcomes generalizing r with
  | nil => simp
  | cons outcome outcomes ih =>
      rw [List.foldl_cons, ih]
      rcases outcome with _ | ⟨errno, _ | _⟩
      · simp [Report.add]
      · simp [Report.add]
      · refine iff_of_false (fun h => ?_) fun h => h.2 errno List.mem_cons_self
        cases h.1

namespace Visit

theorem critical_eq_none_iff {v : Visit} : v.report.critical = none ↔ ¬v.IsCritical := by
  rw [report, critical_foldl_add, IsCritical]
  simp [Report.empty]

theorem isCritical_of_eq_some {v : Visit} {errno : Errno} (h : v.report.critical = some errno) :
    v.IsCritical := by
  by_cases hcritical : v.IsCritical
  · exact hcritical
  · cases h.symm.trans (critical_eq_none_iff.2 hcritical)

theorem isSuccess_iff {v : Visit} : v.report.isSuccess = true ↔ ¬v.IsCritical := by
  rw [← critical_eq_none_iff, Report.isSuccess, Option.isNone_iff_eq_none]

theorem isCritical_iff {v : Visit} :
    v.IsCritical ↔ ∃ a ∈ v.attempts, ∃ errno, a.2.value = .failed errno true := by
  simp only [IsCritical, outcomes, List.mem_map]
  exact ⟨fun ⟨errno, a, ha, h⟩ => ⟨a, ha, errno, h⟩, fun ⟨a, ha, errno, h⟩ => ⟨errno, a, ha, h⟩⟩

end Visit

def objectsIn (fs : FileSystem) (dir : Path) : List Path.Name :=
  match fs.list dir with
  | .error _ => []
  | .ok names => objectNames (names.map .ok)

def visit (loader : Loader σ) (location : Location) (w : Machine × σ) : Visit × (Machine × σ) :=
  let (found, w') := attempts loader location (objectsIn w.1.files location.dir) w
  (⟨location, found⟩, w')

theorem location_visit (loader : Loader σ) (location : Location) (w : Machine × σ) :
    (visit loader location w).1.location = location := rfl

def visits (loader : Loader σ) : List Location → Machine × σ → List Visit × (Machine × σ)
  | [], w => ([], w)
  | location :: rest, w =>
    let (v, w) := visit loader location w
    if v.report.isSuccess then
      let (others, w) := visits loader rest w
      (v :: others, w)
    else ([v], w)

theorem visits_cons (loader : Loader σ) (location : Location) (rest : List Location)
    (w : Machine × σ) :
    visits loader (location :: rest) w =
      let visited := visit loader location w
      if visited.1.report.isSuccess then
        (visited.1 :: (visits loader rest visited.2).1, (visits loader rest visited.2).2)
      else ([visited.1], visited.2) := rfl

def outcomeEvent (path : Path) : Outcome → Event
  | .loaded => ⟨.info, .sweep, "Loaded object", [("path", .plain path.display)]⟩
  | .failed errno critical =>
    ⟨.error, .sweep, "Failed to load object",
      [("path", .plain path.display), ("critical", .flag critical),
        ("error", .plain (IoFault.os errno).message)]⟩

def attemptEvents (a : Attempt) : List Event := a.2.events ++ [outcomeEvent a.1 a.2.value]

theorem runOn_loadObject {loader : Loader σ} {location : Location} {name : Path.Name}
    {s : BootState σ} {outcome : Logged Outcome} {m : Machine} {o : σ}
    (h : loader (location.dir.join ⟨name⟩) location (s.machine, s.outside) = (outcome, m, o))
    (report : Report) :
    (loadObject loader location report name).runOn s =
      (.ok (report.add outcome.value),
        ⟨m, o, s.log ++ attemptEvents (location.dir.join ⟨name⟩, outcome),
          s.effects ++ [.load (location.dir.join ⟨name⟩) location]⟩) := by
  rw [attemptEvents, ← List.append_assoc]
  simp only [loadObject, Boot.runOn_bind, Boot.runOn_perform, Boot.runOn_logged, h]
  rcases outcome.value with _ | _ <;> rfl

/-- The loop over the objects adds each outcome to the tally, whatever it is. -/
theorem runOn_foldlM_loadObject {loader : Loader σ} {location : Location} {names : List Path.Name}
    {found : List Attempt} {m : Machine} {o : σ} (s : BootState σ)
    (h : attempts loader location names (s.machine, s.outside) = (found, m, o)) (report : Report) :
    (names.foldlM (loadObject loader location) report).runOn s =
      (.ok ((found.map fun a => a.2.value).foldl Report.add report),
        ⟨m, o, s.log ++ found.flatMap attemptEvents,
          s.effects ++ found.map fun a => .load a.1 location⟩) := by
  induction names generalizing report s found with
  | nil =>
      cases h
      simp
  | cons name names ih =>
      rcases hcall : loader (location.dir.join ⟨name⟩) location (s.machine, s.outside) with
        ⟨outcome, m', o'⟩
      rcases hrest : attempts loader location names (m', o') with ⟨others, m'', o''⟩
      simp only [attempts, hcall, hrest] at h
      cases h
      rw [List.foldlM_cons, Boot.runOn_bind, runOn_loadObject hcall]
      simp only [ih ⟨m', o', _, _⟩ hrest, List.map_cons, List.foldl_cons, List.flatMap_cons,
        List.append_assoc, List.cons_append, List.nil_append]

theorem runOn_loadLocation {loader : Loader σ} {location : Location} {s : BootState σ} {v : Visit}
    {m : Machine} {o : σ} (h : visit loader location (s.machine, s.outside) = (v, m, o)) :
    ∃ log, (loadLocation loader location).runOn s =
      (.ok v.report, ⟨m, o, log, s.effects ++ v.effects⟩) := by
  rcases hfound : attempts loader location (objectsIn s.machine.files location.dir)
    (s.machine, s.outside) with ⟨found, m', o'⟩
  simp only [visit, hfound] at h
  cases h
  simp only [loadLocation, Boot.runOn_bind, Boot.runOn_files]
  rw [objectsIn] at hfound
  rcases hlist : s.machine.files.list location.dir with fault | names
  · rw [hlist] at hfound
    cases hfound
    simp only [Visit.report, Visit.outcomes, Visit.effects, List.map_nil, List.foldl_nil,
      List.append_nil]
    split <;> exact ⟨_, rfl⟩
  · rw [hlist] at hfound
    exact ⟨_, runOn_foldlM_loadObject s hfound .empty⟩

theorem runOn_loadAll_cons_of_none {loader : Loader σ} {location : Location} {s : BootState σ}
    {v : Visit} {m : Machine} {o : σ}
    (h : visit loader location (s.machine, s.outside) = (v, m, o)) (hnone : v.report.critical = none)
    (rest : List Location) (stall : Stall σ) (seconds : Nat) :
    ∃ log, (loadAll loader stall seconds (location :: rest)).runOn s =
      (loadAll loader stall seconds rest).runOn ⟨m, o, log, s.effects ++ v.effects⟩ := by
  obtain ⟨log, hvisit⟩ := runOn_loadLocation h
  simp only [loadAll, Boot.runOn_bind, hvisit, Boot.runOn_tell, hnone]
  exact ⟨_, rfl⟩

theorem runOn_loadAll_cons_of_some {loader : Loader σ} {location : Location} {s : BootState σ}
    {v : Visit} {m : Machine} {o : σ} {errno : Errno}
    (h : visit loader location (s.machine, s.outside) = (v, m, o))
    (hsome : v.report.critical = some errno) (rest : List Location) (stall : Stall σ)
    (seconds : Nat) :
    ∃ log, (loadAll loader stall seconds (location :: rest)).runOn s =
      (.error (.criticalLoad location.dir errno),
        ⟨(stall seconds (m, o)).2.1, (stall seconds (m, o)).2.2, log,
          s.effects ++ v.effects ++ [.stall seconds]⟩) := by
  obtain ⟨log, hvisit⟩ := runOn_loadLocation h
  simp only [loadAll, Boot.runOn_bind, hvisit, Boot.runOn_tell, hsome, diagnosis]
  exact ⟨_, rfl⟩

/-- All that a sweep can come to: the visits without a critical failure and no more, or the visits
up to the first one with a critical failure, the stall and the end. -/
theorem runOn_loadAll (loader : Loader σ) (stall : Stall σ) (seconds : Nat)
    (locations : List Location) (s : BootState σ) {vs : List Visit} {m : Machine} {o : σ}
    (h : visits loader locations (s.machine, s.outside) = (vs, m, o)) :
    ((∀ v ∈ vs, ¬v.IsCritical) ∧
        ∃ log, (loadAll loader stall seconds locations).runOn s =
          (.ok (), ⟨m, o, log, s.effects ++ vs.flatMap Visit.effects⟩)) ∨
      ∃ v ∈ vs, v.IsCritical ∧
        ∃ errno log, (loadAll loader stall seconds locations).runOn s =
          (.error (.criticalLoad v.location.dir errno),
            ⟨(stall seconds (m, o)).2.1, (stall seconds (m, o)).2.2, log,
              s.effects ++ vs.flatMap Visit.effects ++ [.stall seconds]⟩) := by
  induction locations generalizing s vs with
  | nil =>
      cases h
      exact .inl ⟨List.forall_mem_nil _, s.log, by simp [loadAll]⟩
  | cons location rest ih =>
      rcases hvisit : visit loader location (s.machine, s.outside) with ⟨v, m', o'⟩
      rw [visits_cons, hvisit] at h
      rcases hcritical : v.report.critical with _ | errno
      · have hnone : ¬v.IsCritical := Visit.critical_eq_none_iff.1 hcritical
        rcases hrest : visits loader rest (m', o') with ⟨others, m'', o''⟩
        simp only [Visit.isSuccess_iff.2 hnone, if_true, hrest] at h
        cases h
        obtain ⟨log, hstep⟩ := runOn_loadAll_cons_of_none hvisit hcritical rest stall seconds
        rw [hstep, List.flatMap_cons, ← List.append_assoc]
        rcases ih ⟨m', o', log, s.effects ++ v.effects⟩ hrest with ⟨hothers, hloop⟩ | ⟨u, hu, hloop⟩
        · exact .inl ⟨List.forall_mem_cons.2 ⟨hnone, hothers⟩, hloop⟩
        · exact .inr ⟨u, List.mem_cons_of_mem v hu, hloop⟩
      · have hsome : v.IsCritical := Visit.isCritical_of_eq_some hcritical
        have hfailed : ¬v.report.isSuccess = true := fun hok => Visit.isSuccess_iff.1 hok hsome
        simp only [hfailed] at h
        cases h
        obtain ⟨log, hstep⟩ := runOn_loadAll_cons_of_some hvisit hcritical rest stall seconds
        have hlocation : v.location = location := by
          rw [← location_visit loader location (s.machine, s.outside), hvisit]
        refine .inr ⟨v, List.mem_singleton_self v, hsome, errno, log, ?_⟩
        rw [hstep, hlocation, List.flatMap_singleton]

theorem simulates_loadObject {a : Loader σ} {b : Loader τ}
    (h : ∀ path location, Matches rel (a path location) (b path location)) (location : Location)
    (report : Report) (name : Path.Name) :
    Boot.Simulates rel (loadObject a location report name) (loadObject b location report name) := by
  refine .bind (.perform _ (h _ _)) fun outcome => .bind (.logged outcome) fun outcome => ?_
  split
  · exact .bind (.tell _) fun _ => .pure _
  · exact .bind (.tell _) fun _ => .pure _

theorem simulates_loadLocation {a : Loader σ} {b : Loader τ}
    (h : ∀ path location, Matches rel (a path location) (b path location)) (location : Location) :
    Boot.Simulates rel (loadLocation a location) (loadLocation b location) := by
  refine .bind .files fun fs => ?_
  split
  · split
    · exact .bind (.tell _) fun _ => .pure _
    · exact .bind (.tell _) fun _ => .pure _
  · exact .foldlM (simulates_loadObject h location) _ _

theorem simulates_loadAll {a : Loader σ} {b : Loader τ} {stall : Stall σ} {stall' : Stall τ}
    (h : ∀ path location, Matches rel (a path location) (b path location))
    (hstall : ∀ seconds, Matches rel (stall seconds) (stall' seconds)) (seconds : Nat)
    (locations : List Location) :
    Boot.Simulates rel (loadAll a stall seconds locations)
      (loadAll b stall' seconds locations) := by
  induction locations with
  | nil => exact .pure ()
  | cons location rest ih =>
      refine .bind (simulates_loadLocation h location) fun report => .bind (.tell _) fun _ => ?_
      split
      · exact ih
      · exact .bind (.forM (fun line => .tell _) _) fun _ =>
          .bind (.perform _ (hstall seconds)) fun _ => .throw _

end BpfBoot.Load
