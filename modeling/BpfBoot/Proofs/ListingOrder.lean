import Mathlib
import BpfBoot.Files.Plant
import BpfBoot.Proofs.Accounting

namespace BpfBoot.Load

variable {σ : Type}

/-- Two tallies that count alike, and that are both of a success or both of a failure. -/
structure Report.Agree (r r' : Report) : Prop where
  attempted : r.attempted = r'.attempted
  loaded : r.loaded = r'.loaded
  failed : r.failed = r'.failed
  isSuccess : r.isSuccess = r'.isSuccess

namespace Visit

variable {v u : Visit}

theorem accounts_report (v : Visit) : v.report.Accounts v.outcomes := accounts_foldl_add v.outcomes

theorem agree_of_perm (h : v.outcomes.Perm u.outcomes) : v.report.Agree u.report := by
  have hv := v.accounts_report
  have hu := u.accounts_report
  refine ⟨?_, ?_, ?_, ?_⟩
  · rw [hv.attempted, hu.attempted, h.length_eq]
  · rw [hv.loaded, hu.loaded, h.count_eq]
  · rw [hv.failed, hu.failed, h.countP_eq]
  · rw [Bool.eq_iff_iff, isSuccess_iff, isSuccess_iff, IsCritical, IsCritical]
    simp only [h.mem_iff]

end Visit

def entriesIn (fs : FileSystem) (dir : Path) : List Path.Name :=
  match fs.list dir with
  | .ok names => names
  | .error _ => []

theorem objectsIn_eq (fs : FileSystem) (dir : Path) :
    objectsIn fs dir = objectNames ((entriesIn fs dir).map .ok) := by
  rw [objectsIn, entriesIn]
  cases fs.list dir <;> rfl

theorem perm_objectsIn {fs gs : FileSystem} {dir : Path}
    (h : (entriesIn fs dir).Perm (entriesIn gs dir)) :
    (objectsIn fs dir).Perm (objectsIn gs dir) := by
  rw [objectsIn_eq, objectsIn_eq]
  exact ((h.map _).filterMap _).filter _

/-- What the directories of the locations list when a tour comes to them. -/
def listings (loader : Loader σ) : List Location → Machine × σ → List (List Path.Name)
  | [], _ => []
  | location :: rest, w =>
    entriesIn w.1.files location.dir :: listings loader rest (visit loader location w).2

theorem calls_visit (loader : Loader σ) (location : Location) (w : Machine × σ) :
    (visit loader location w).1.calls =
      (objectsIn w.1.files location.dir).map fun name => (location.dir.join ⟨name⟩, location) := by
  have hpaths : (visit loader location w).1.calls =
      ((attempts loader location (objectsIn w.1.files location.dir) w).1.map Prod.fst).map
        fun path => (path, location) := by
    rw [List.map_map]
    rfl
  rw [hpaths, paths_attempts, List.map_map]
  rfl

theorem perm_calls {loader : Loader σ} {location : Location} {w w' : Machine × σ}
    (h : (entriesIn w.1.files location.dir).Perm (entriesIn w'.1.files location.dir)) :
    (visit loader location w).1.calls.Perm (visit loader location w').1.calls := by
  rw [calls_visit, calls_visit]
  exact (perm_objectsIn h).map _

/-- How two sweeps end that make the given calls: both well and without a wait, or both after one
wait in the failure of one location, each with the number of a critical object of that location. -/
inductive EndAlike (outcome : Path → Location → Outcome) (locations : List Location) (seconds : Nat)
    (calls : List Call) : Except BootError Unit → Except BootError Unit → List Effect → Prop
  | well : EndAlike outcome locations seconds calls (.ok ()) (.ok ()) []
  | failed {location : Location} {path path' : Path} {errno errno' : Errno}
      (hlocation : location ∈ locations)
      (hcall : (path, location) ∈ calls) (hfailed : outcome path location = .failed errno true)
      (hcall' : (path', location) ∈ calls) (hfailed' : outcome path' location = .failed errno' true) :
      EndAlike outcome locations seconds calls (.error (.criticalLoad location.dir errno))
        (.error (.criticalLoad location.dir errno')) [.stall seconds]

theorem EndAlike.cons {outcome : Path → Location → Outcome} {locations : List Location}
    {seconds : Nat} {calls : List Call} {result result' : Except BootError Unit} {waits : List Effect}
    (h : EndAlike outcome locations seconds calls result result' waits) (location : Location)
    (before : List Call) :
    EndAlike outcome (location :: locations) seconds (before ++ calls) result result' waits := by
  cases h with
  | well => exact .well
  | failed hlocation hcall hfailed hcall' hfailed' =>
      exact .failed (List.mem_cons_of_mem location hlocation) (List.mem_append_right before hcall)
        hfailed (List.mem_append_right before hcall') hfailed'

section Answers

variable {loader : Loader σ} {outcome : Path → Location → Outcome}
  (hloader : ∀ path location w, (loader path location w).1.value = outcome path location)
  {locations : List Location} {location : Location}

include hloader

theorem outcomes_visit (location : Location) (w : Machine × σ) :
    (visit loader location w).1.outcomes =
      (visit loader location w).1.calls.map fun call => outcome call.1 call.2 := by
  have hattempts (names : List Path.Name) (w : Machine × σ) :
      (attempts loader location names w).1.map (fun a => a.2.value) =
        (attempts loader location names w).1.map fun a => outcome a.1 location := by
    induction names generalizing w with
    | nil => rfl
    | cons name names ih => rw [attempts_cons, List.map_cons, List.map_cons, ih, hloader]
  rw [Visit.calls, List.map_map]
  exact hattempts _ w

theorem agree_visit {w w' : Machine × σ}
    (h : (entriesIn w.1.files location.dir).Perm (entriesIn w'.1.files location.dir)) :
    (visit loader location w).1.report.Agree (visit loader location w').1.report := by
  apply Visit.agree_of_perm
  rw [outcomes_visit hloader, outcomes_visit hloader]
  exact (perm_calls h).map _

theorem exists_call_of_critical {v : Visit} {w w' : Machine × σ} {errno : Errno}
    (hv : visit loader location w = (v, w')) (h : v.report.critical = some errno) :
    ∃ path, (path, location) ∈ v.calls ∧ outcome path location = .failed errno true := by
  obtain rfl : (visit loader location w).1 = v := congrArg Prod.fst hv
  have hmem := exists_critical h
  rw [outcomes_visit hloader] at hmem
  obtain ⟨⟨path, other⟩, hcall, houtcome⟩ := List.mem_map.1 hmem
  obtain ⟨name, -, heq⟩ := List.mem_map.1 (calls_visit loader location w ▸ hcall)
  cases heq
  exact ⟨_, hcall, houtcome⟩

theorem runOn_loadAll_alike (stall : Stall σ) (seconds : Nat) {s t : BootState σ}
    (h : List.Forall₂ List.Perm (listings loader locations (s.machine, s.outside))
      (listings loader locations (t.machine, t.outside))) :
    ∃ calls calls' waits, calls.Perm calls' ∧
      ((loadAll loader stall seconds locations).runOn s).2.effects =
        s.effects ++ calls.map (fun call => .load call.1 call.2) ++ waits ∧
      ((loadAll loader stall seconds locations).runOn t).2.effects =
        t.effects ++ calls'.map (fun call => .load call.1 call.2) ++ waits ∧
      EndAlike outcome locations seconds calls ((loadAll loader stall seconds locations).runOn s).1
        ((loadAll loader stall seconds locations).runOn t).1 waits := by
  induction locations generalizing s t with
  | nil => exact ⟨[], [], [], .nil, by simp [loadAll], by simp [loadAll], .well⟩
  | cons location rest ih =>
      obtain ⟨hlist, hrest⟩ := List.forall₂_cons.1 h
      have hcalls := @perm_calls σ loader location _ _ hlist
      have hsuccess := (agree_visit hloader hlist).isSuccess
      rcases hv : visit loader location (s.machine, s.outside) with ⟨v, m, o⟩
      rcases hu : visit loader location (t.machine, t.outside) with ⟨u, m', o'⟩
      simp only [hv, hu] at hcalls hsuccess hrest
      rcases hnone : v.report.critical with _ | errno <;>
        rcases hnone' : u.report.critical with _ | errno' <;>
        simp only [Report.isSuccess, hnone, hnone', Option.isNone_none, Option.isNone_some,
          reduceCtorEq] at hsuccess
      · obtain ⟨log, hs⟩ := runOn_loadAll_cons_of_none hv hnone rest stall seconds
        obtain ⟨log', ht⟩ := runOn_loadAll_cons_of_none hu hnone' rest stall seconds
        obtain ⟨calls, calls', waits, hperm, heffects, heffects', hends⟩ :=
          @ih ⟨m, o, log, s.effects ++ v.effects⟩ ⟨m', o', log', t.effects ++ u.effects⟩ hrest
        refine ⟨v.calls ++ calls, u.calls ++ calls', waits, hcalls.append hperm, ?_, ?_, ?_⟩
        · rw [hs, heffects, v.effects_eq_map]
          simp only [List.map_append, List.append_assoc]
        · rw [ht, heffects', u.effects_eq_map]
          simp only [List.map_append, List.append_assoc]
        · rw [hs, ht]
          exact hends.cons location v.calls
      · obtain ⟨log, hs⟩ := runOn_loadAll_cons_of_some hv hnone rest stall seconds
        obtain ⟨log', ht⟩ := runOn_loadAll_cons_of_some hu hnone' rest stall seconds
        obtain ⟨path, hcall, hfailed⟩ := exists_call_of_critical hloader hv hnone
        obtain ⟨path', hcall', hfailed'⟩ := exists_call_of_critical hloader hu hnone'
        refine ⟨v.calls, u.calls, [.stall seconds], hcalls, ?_, ?_, ?_⟩
        · rw [hs, v.effects_eq_map]
        · rw [ht, u.effects_eq_map]
        · rw [hs, ht]
          exact .failed List.mem_cons_self hcall hfailed (hcalls.mem_iff.2 hcall') hfailed'

/-- Of one location two machines that list the same entries have tallies that agree. Two sweeps that
meet the same entries call the loader alike but for the order, wait alike and end alike; the number
that a failed one ends with is that of some critical object of the location that failed. -/
theorem sweep_of_perm (stall : Stall σ) (seconds : Nat) (locations : List Location)
    (s t : BootState σ)
    (hlist : List.Forall₂ List.Perm (listings loader locations (s.machine, s.outside))
      (listings loader locations (t.machine, t.outside))) :
    let ended := (loadAll loader stall seconds locations).runOn s
    let ended' := (loadAll loader stall seconds locations).runOn t
    (∀ (location : Location) (a b : BootState σ),
        (entriesIn a.machine.files location.dir).Perm (entriesIn b.machine.files location.dir) →
          ∃ r r', ((loadLocation loader location).runOn a).1 = .ok r ∧
            ((loadLocation loader location).runOn b).1 = .ok r' ∧ r.Agree r') ∧
      ∃ calls calls' waits, calls.Perm calls' ∧
        ended.2.effects = s.effects ++ calls.map (fun call => .load call.1 call.2) ++ waits ∧
        ended'.2.effects = t.effects ++ calls'.map (fun call => .load call.1 call.2) ++ waits ∧
        EndAlike outcome locations seconds calls ended.1 ended'.1 waits := by
  refine ⟨fun location a b h => ?_, runOn_loadAll_alike hloader stall seconds hlist⟩
  obtain ⟨log, ha⟩ := @runOn_loadLocation σ loader location a _ _ _ rfl
  obtain ⟨log', hb⟩ := @runOn_loadLocation σ loader location b _ _ _ rfl
  rw [ha, hb]
  exact ⟨_, _, rfl, rfl, agree_visit hloader h⟩

end Answers

def quarrel (path : Path) (_ : Location) : Outcome :=
  .failed (if path = .ofString "d/a.o" then 5 else 7) true

def quarrelsome : Loader Unit := fun path location => pure (pure (quarrel path location))

def listed (names : List String) : Machine where
  files := names.foldl (fun fs name => fs.plant (.ofString name) (.file [] none)) .empty
  umask := 0

def listedStart (names : List String) : BootState Unit := .start (listed names) ()

theorem sweep_of_perm_swapped :
    let s := listedStart ["d/a.o", "d/b.o"]
    let t := listedStart ["d/b.o", "d/a.o"]
    let locations : List Location := [⟨.ofString "d", "p"⟩]
    let ended := (loadAll quarrelsome (fun _ => pure ()) 5 locations).runOn s
    let ended' := (loadAll quarrelsome (fun _ => pure ()) 5 locations).runOn t
    (ended.1 = .error (.criticalLoad (.ofString "d") 7) ∧
        ended'.1 = .error (.criticalLoad (.ofString "d") 5)) ∧
      ∃ calls calls' waits, calls.Perm calls' ∧
        ended.2.effects = s.effects ++ calls.map (fun call => .load call.1 call.2) ++ waits ∧
        ended'.2.effects = t.effects ++ calls'.map (fun call => .load call.1 call.2) ++ waits ∧
        EndAlike quarrel locations 5 calls ended.1 ended'.1 waits := by
  have hloader : ∀ path location w, (quarrelsome path location w).1.value = quarrel path location :=
    fun _ _ _ => rfl
  refine ⟨by decide +kernel, (sweep_of_perm hloader (fun _ => pure ()) 5 _ _ _ ?_).2⟩
  exact .cons (by decide +kernel) .nil

end BpfBoot.Load
