import BpfBoot.Proofs.Decoding
import BpfBoot.Proofs.Sweep

namespace BpfBoot.Load

variable {σ : Type}

abbrev Call := Path × Location

def called (loader : Loader σ) (w : Machine × σ) (call : Call) : Machine × σ :=
  (loader call.1 call.2 w).2

def Outcome.critical? : Outcome → Option Errno
  | .failed errno true => some errno
  | _ => none

namespace Visit

def calls (v : Visit) : List Call := v.attempts.map fun a => (a.1, v.location)

def criticals (v : Visit) : List Errno := v.outcomes.filterMap Outcome.critical?

end Visit

def loads (vs : List Visit) : List Call := vs.flatMap Visit.calls

/-- Visits every location, whatever comes of the visits before; the sweep makes the same visits up
to the first one with a critical failure. -/
def tour (loader : Loader σ) : List Location → Machine × σ → List Visit × (Machine × σ)
  | [], w => ([], w)
  | location :: rest, w =>
    let (v, w) := visit loader location w
    let (others, w) := tour loader rest w
    (v :: others, w)

variable {loader : Loader σ} {location : Location} {locations : List Location} {w : Machine × σ}

theorem tour_cons (loader : Loader σ) (location : Location) (rest : List Location)
    (w : Machine × σ) :
    tour loader (location :: rest) w =
      let visited := visit loader location w
      (visited.1 :: (tour loader rest visited.2).1, (tour loader rest visited.2).2) := rfl

theorem tour_take (loader : Loader σ) (locations : List Location) (w : Machine × σ) (count : Nat) :
    (tour loader (locations.take count) w).1 = (tour loader locations w).1.take count := by
  induction locations generalizing w count with
  | nil => simp [tour]
  | cons location rest ih =>
      cases count with
      | zero => rfl
      | succ count => exact congrArg (List.cons _) (ih (visit loader location w).2 count)

theorem getElem?_tour {index : Nat} (h : locations[index]? = some location) (w : Machine × σ) :
    (tour loader locations w).1[index]? =
      some (visit loader location (tour loader (locations.take index) w).2).1 := by
  induction locations generalizing w index with
  | nil => cases h
  | cons first rest ih =>
      cases index with
      | zero =>
          cases h
          rfl
      | succ index => exact ih h (visit loader first w).2

theorem map_location_tour (loader : Loader σ) (locations : List Location) (w : Machine × σ) :
    (tour loader locations w).1.map Visit.location = locations := by
  induction locations generalizing w with
  | nil => rfl
  | cons location rest ih => rw [tour_cons, List.map_cons, ih, location_visit]

theorem eq_visit_of_tour {index : Nat} {v : Visit}
    (h : (tour loader locations w).1[index]? = some v) :
    locations[index]? = some v.location ∧
      v = (visit loader v.location (tour loader (locations.take index) w).2).1 := by
  have hlocation : locations[index]? = some v.location := by
    rw [← map_location_tour loader locations w, List.getElem?_map, h]
    rfl
  exact ⟨hlocation, Option.some.inj (h.symm.trans (getElem?_tour hlocation w))⟩

theorem critical_eq_getLast? (outcomes : List Outcome) (r : Report) :
    (outcomes.foldl Report.add r).critical =
      (outcomes.filterMap Outcome.critical?).getLast?.or r.critical := by
  induction outcomes generalizing r with
  | nil => rfl
  | cons outcome outcomes ih =>
      rw [List.foldl_cons, ih]
      rcases outcome with _ | ⟨errno, _ | _⟩
      · rfl
      · rfl
      · rw [List.filterMap_cons, Outcome.critical?, List.getLast?_cons]
        cases (outcomes.filterMap Outcome.critical?).getLast? <;> rfl

theorem Visit.critical_report (v : Visit) : v.report.critical = v.criticals.getLast? := by
  rw [report, critical_eq_getLast?]
  exact Option.or_none

theorem exists_critical {v : Visit} {errno : Errno} (h : v.report.critical = some errno) :
    .failed errno true ∈ v.outcomes := by
  rw [v.critical_report] at h
  obtain ⟨outcome, hmem, hcritical⟩ := List.mem_filterMap.1 (List.mem_of_getLast? h)
  rcases outcome with _ | ⟨other, _ | _⟩ <;> cases hcritical
  exact hmem

theorem paths_attempts (loader : Loader σ) (location : Location) (names : List Path.Name)
    (w : Machine × σ) :
    (attempts loader location names w).1.map Prod.fst =
      names.map fun name => location.dir.join ⟨name⟩ := by
  induction names generalizing w with
  | nil => rfl
  | cons name names ih => rw [attempts_cons, List.map_cons, List.map_cons, ih]

theorem foldl_called_attempts (loader : Loader σ) (location : Location) (names : List Path.Name)
    (w : Machine × σ) :
    ((attempts loader location names w).1.map fun a => (a.1, location)).foldl (called loader) w =
      (attempts loader location names w).2 := by
  induction names generalizing w with
  | nil => rfl
  | cons name names ih =>
      rw [attempts_cons, List.map_cons, List.foldl_cons]
      exact ih _

theorem foldl_called_visit (loader : Loader σ) (location : Location) (w : Machine × σ) :
    (visit loader location w).1.calls.foldl (called loader) w = (visit loader location w).2 :=
  foldl_called_attempts loader location _ w

/-- The calls of a tour are all that it does to the machine and to what the loader keeps. -/
theorem foldl_called_tour (loader : Loader σ) (locations : List Location) (w : Machine × σ) :
    (loads (tour loader locations w).1).foldl (called loader) w =
      (tour loader locations w).2 := by
  induction locations generalizing w with
  | nil => rfl
  | cons location rest ih =>
      rw [tour_cons, loads, List.flatMap_cons, List.foldl_append, foldl_called_visit]
      exact ih _

theorem Visit.effects_eq_map (v : Visit) :
    v.effects = v.calls.map fun call => .load call.1 call.2 := by
  rw [effects, calls, List.map_map]
  rfl

theorem effects_eq_map (vs : List Visit) :
    vs.flatMap Visit.effects = (loads vs).map fun call => .load call.1 call.2 := by
  rw [loads, List.map_flatMap]
  congr 1
  funext v
  exact v.effects_eq_map

/-- Every object that is listed is attempted once, in the order of the listing; where nothing can be
listed there is no attempt and no failure. -/
structure IsVisit (fs : FileSystem) (location : Location) (v : Visit) : Prop where
  visits : v.location = location
  lists : ∀ {names}, fs.list location.dir = .ok names → names.Nodup ∧
    v.attempts.map Prod.fst =
      (names.filter rawSuffix.isSuffixOf).map fun name => location.dir.join ⟨name⟩
  lacks : ∀ {fault}, fs.list location.dir = .error fault → v.attempts = [] ∧ ¬v.IsCritical

theorem nodup_of_list {fs : FileSystem} {dir : Path} {names : List Path.Name}
    (h : fs.list dir = .ok names) : names.Nodup := by
  obtain ⟨place, rfl⟩ : ∃ place, fs.names place = names := by
    rw [FileSystem.list] at h
    rcases hplace : fs.resolve dir with fault | place <;>
      simp only [hplace, bind, Except.bind] at h
    · cases h
    · split at h
      · exact ⟨place, Except.ok.inj h⟩
      · cases h
  have hnames : fs.names place = (fs.nodes.map Prod.fst).filterMap fun p =>
      if p.tail = place then p.head? else none := by
    rw [FileSystem.names, List.filterMap_map]
    apply List.filterMap_congr
    rintro ⟨_ | ⟨name, parent⟩, node⟩ -
    · exact (ite_self none).symm
    · rfl
  rw [hnames]
  refine fs.distinct.filterMap fun p q name hp hq => ?_
  rw [Option.mem_def, Option.ite_none_right_eq_some] at hp hq
  rw [List.eq_cons_of_mem_head? hp.2, List.eq_cons_of_mem_head? hq.2, hp.1, hq.1]

theorem objectNames_eq_filter (listing : List Entry) :
    objectNames listing = (listing.filterMap Except.toOption).filter rawSuffix.isSuffixOf := by
  rw [objectNames]
  congr 1
  funext name
  rw [Bool.eq_iff_iff, isObjectName_iff, List.isSuffixOf_iff_suffix]

theorem objectsIn_eq_filter {fs : FileSystem} {dir : Path} {names : List Path.Name}
    (h : fs.list dir = .ok names) : objectsIn fs dir = names.filter rawSuffix.isSuffixOf := by
  have hnames : (names.map (.ok : Path.Name → Entry)).filterMap Except.toOption = names := by
    rw [List.filterMap_map]
    exact List.filterMap_some
  rw [objectsIn, h]
  exact (objectNames_eq_filter _).trans (congrArg _ hnames)

theorem isVisit_visit (loader : Loader σ) (location : Location) (w : Machine × σ) :
    IsVisit w.1.files location (visit loader location w).1 := by
  refine ⟨rfl, fun {names} hnames => ?_, fun {fault} hfault => ?_⟩
  · rw [← objectsIn_eq_filter hnames]
    exact ⟨nodup_of_list hnames, paths_attempts loader location _ w⟩
  · have hnone : objectsIn w.1.files location.dir = [] := by rw [objectsIn, hfault]
    have hattempts : (visit loader location w).1.attempts = [] := by
      simp only [visit, hnone, attempts]
    refine ⟨hattempts, fun hcritical => ?_⟩
    obtain ⟨a, ha, -⟩ := Visit.isCritical_iff.1 hcritical
    rw [hattempts] at ha
    cases ha

theorem runOn_loadAll_tour (loader : Loader σ) (stall : Stall σ) (seconds : Nat)
    (locations : List Location) (s : BootState σ) :
    let vs := (tour loader locations (s.machine, s.outside)).1
    ((∀ v ∈ vs, ¬v.IsCritical) ∧
        ∃ log, (loadAll loader stall seconds locations).runOn s =
          (.ok (), ⟨(tour loader locations (s.machine, s.outside)).2.1,
            (tour loader locations (s.machine, s.outside)).2.2, log,
            s.effects ++ vs.flatMap Visit.effects⟩)) ∨
      ∃ index v errno log, vs[index]? = some v ∧ (∀ u ∈ vs.take index, ¬u.IsCritical) ∧
        v.criticals.getLast? = some errno ∧
        (loadAll loader stall seconds locations).runOn s =
          (.error (.criticalLoad v.location.dir errno),
            let left := stall seconds
              (tour loader (locations.take (index + 1)) (s.machine, s.outside)).2
            ⟨left.2.1, left.2.2, log,
              s.effects ++ (vs.take (index + 1)).flatMap Visit.effects ++ [.stall seconds]⟩) := by
  intro vs
  induction locations generalizing s with
  | nil => exact .inl ⟨List.forall_mem_nil _, s.log, by simp [vs, loadAll, tour]⟩
  | cons location rest ih =>
      rcases hvisit : visit loader location (s.machine, s.outside) with ⟨v, m, o⟩
      have hvs : vs = v :: (tour loader rest (m, o)).1 := by
        simp only [vs, tour_cons, hvisit]
      have hlocation : v.location = location := by
        rw [← location_visit loader location (s.machine, s.outside), hvisit]
      rw [hvs, tour_cons, hvisit]
      rcases hcritical : v.report.critical with _ | errno
      · have hnone : ¬v.IsCritical := Visit.critical_eq_none_iff.1 hcritical
        obtain ⟨log, hstep⟩ := runOn_loadAll_cons_of_none hvisit hcritical rest stall seconds
        rw [hstep]
        obtain ⟨hrest, log, h⟩ | ⟨index, u, errno, log, hu, hbefore, herrno, h⟩ :=
          ih ⟨m, o, log, s.effects ++ v.effects⟩
        · refine .inl ⟨List.forall_mem_cons.2 ⟨hnone, hrest⟩, log, ?_⟩
          rw [h, List.flatMap_cons, List.append_assoc]
        · refine .inr ⟨index + 1, u, errno, log, hu, ?_, herrno, ?_⟩
          · rw [List.take_succ_cons]
            exact List.forall_mem_cons.2 ⟨hnone, hbefore⟩
          · rw [h, List.take_succ_cons, List.take_succ_cons, tour_cons, hvisit,
              List.flatMap_cons, List.append_assoc s.effects]
      · obtain ⟨log, hstep⟩ := runOn_loadAll_cons_of_some hvisit hcritical rest stall seconds
        rw [v.critical_report] at hcritical
        refine .inr ⟨0, v, errno, log, rfl, List.forall_mem_nil _, hcritical, ?_⟩
        rw [hstep, hlocation]
        simp [tour, hvisit]

/-- A sweep attempts every object of the locations up to the first one in which an object fails
critically, that one included, then waits once and ends in that location's failure. Without such a
location it attempts every object of all, and does not wait. -/
theorem sweep_of_locations (loader : Loader σ) (stall : Stall σ) (seconds : Nat)
    (locations : List Location) (s : BootState σ) :
    let w := (s.machine, s.outside)
    let vs := (tour loader locations w).1
    let ended := (loadAll loader stall seconds locations).runOn s
    let left := (ended.2.machine, ended.2.outside)
    (∀ index location, locations[index]? = some location → ∃ v, vs[index]? = some v ∧
        IsVisit ((loads (vs.take index)).foldl (called loader) w).1.files location v) ∧
      ((∃ index v errno, vs[index]? = some v ∧ v.IsCritical ∧
            (∀ u ∈ vs.take index, ¬u.IsCritical) ∧ v.criticals.getLast? = some errno ∧
            ended.1 = .error (.criticalLoad v.location.dir errno) ∧
            ended.2.effects = s.effects ++
              (loads (vs.take (index + 1))).map (fun call => .load call.1 call.2) ++
              [.stall seconds] ∧
            left = (stall seconds ((loads (vs.take (index + 1))).foldl (called loader) w)).2) ∨
        (∀ v ∈ vs, ¬v.IsCritical) ∧ ended.1 = .ok () ∧
          ended.2.effects = s.effects ++ (loads vs).map (fun call => .load call.1 call.2) ∧
          left = (loads vs).foldl (called loader) w) := by
  intro w vs ended left
  have hleft (count : Nat) : (loads (vs.take count)).foldl (called loader) w =
      (tour loader (locations.take count) w).2 := by
    rw [← tour_take, foldl_called_tour]
  refine ⟨fun index location h => ?_, ?_⟩
  · rw [hleft]
    exact ⟨_, getElem?_tour h w, isVisit_visit loader location _⟩
  · obtain ⟨hnone, log, h⟩ | ⟨index, v, errno, log, hv, hbefore, herrno, h⟩ :=
      runOn_loadAll_tour loader stall seconds locations s
    · refine .inr ⟨hnone, ?_, ?_, ?_⟩ <;> simp only [left, ended, h]
      · rw [effects_eq_map]
      · rw [foldl_called_tour]
    · have hcritical : v.IsCritical :=
        Visit.isCritical_of_eq_some (v.critical_report.trans herrno)
      refine .inl ⟨index, v, errno, hv, hcritical, hbefore, herrno, ?_, ?_, ?_⟩ <;>
        simp only [left, ended, h]
      · rw [effects_eq_map]
      · rw [hleft]

end BpfBoot.Load
