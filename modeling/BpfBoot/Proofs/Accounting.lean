import Mathlib
import BpfBoot.Proofs.Tour

namespace BpfBoot.Load

variable {σ : Type}

/-- What a tally says of the outcomes that it was made from. -/
structure Report.Accounts (r : Report) (outcomes : List Outcome) : Prop where
  attempted : r.attempted = outcomes.length
  balanced : r.attempted = r.loaded + r.failed
  loaded : r.loaded = outcomes.count .loaded
  failed : r.failed = outcomes.countP (· ≠ .loaded)
  critical : r.critical = (outcomes.filterMap Outcome.critical?).getLast?
  harmless : r.critical = none ↔ ∀ errno, .failed errno true ∉ outcomes

theorem foldl_add_eq_countP {count : Report → Nat} {p : Outcome → Bool}
    (hstep : ∀ r outcome, count (r.add outcome) = count r + if p outcome then 1 else 0)
    (outcomes : List Outcome) (r : Report) :
    count (outcomes.foldl Report.add r) = count r + outcomes.countP p := by
  induction outcomes generalizing r with
  | nil => rfl
  | cons outcome outcomes ih =>
      rw [List.foldl_cons, ih, hstep, List.countP_cons]
      omega

theorem balanced_foldl_add {r : Report} (h : r.attempted = r.loaded + r.failed)
    (outcomes : List Outcome) :
    (outcomes.foldl Report.add r).attempted =
      (outcomes.foldl Report.add r).loaded + (outcomes.foldl Report.add r).failed := by
  induction outcomes generalizing r with
  | nil => exact h
  | cons outcome outcomes ih => exact ih (Report.balanced_add h outcome)

theorem accounts_foldl_add (outcomes : List Outcome) :
    (outcomes.foldl Report.add .empty).Accounts outcomes := by
  have hcount {count : Report → Nat} {p : Outcome → Bool} (hempty : count .empty = 0)
      (hstep : ∀ r outcome, count (r.add outcome) = count r + if p outcome then 1 else 0) :
      count (outcomes.foldl Report.add .empty) = outcomes.countP p := by
    rw [foldl_add_eq_countP hstep, hempty, Nat.zero_add]
  refine ⟨?_, balanced_foldl_add rfl outcomes, ?_, ?_, ?_, ?_⟩
  · rw [@hcount Report.attempted (fun _ => true) rfl Report.attempted_add, List.countP_true]
  · refine hcount (p := (· == .loaded)) rfl ?_
    rintro r (_ | _) <;> rfl
  · refine hcount rfl ?_
    rintro r (_ | _) <;> rfl
  · rw [critical_eq_getLast?]
    exact Option.or_none
  · rw [critical_foldl_add]
    exact and_iff_right rfl

def tellsOutcome (e : Event) : Bool :=
  e.message = "Loaded object" || e.message = "Failed to load object"

theorem tellsOutcome_outcomeEvent (path : Path) (outcome : Outcome) :
    tellsOutcome (outcomeEvent path outcome) = true := by
  cases outcome <;> rfl

theorem filter_flatMap_attemptEvents {tried : List Attempt}
    (h : ∀ a ∈ tried, ∀ e ∈ a.2.events, tellsOutcome e = false) :
    (tried.flatMap attemptEvents).filter tellsOutcome =
      tried.map fun a => outcomeEvent a.1 a.2.value := by
  induction tried with
  | nil => rfl
  | cons a tried ih =>
      obtain ⟨hfirst, hrest⟩ := List.forall_mem_cons.1 h
      have hown : a.2.events.filter tellsOutcome = [] := by
        rw [List.filter_eq_nil_iff]
        intro e he
        rw [hfirst e he]
        exact Bool.false_ne_true
      rw [List.flatMap_cons, List.filter_append, ih hrest, attemptEvents, List.filter_append, hown,
        List.filter_singleton, tellsOutcome_outcomeEvent]
      rfl

theorem runOn_loadLocation_of_ok (loader : Loader σ) {location : Location} {s : BootState σ}
    {names : List Path.Name} (h : s.machine.files.list location.dir = .ok names) :
    (loadLocation loader location).runOn s =
      (loadListing loader location (names.map .ok)).runOn s := by
  simp only [loadLocation, Boot.runOn_bind, Boot.runOn_files, h]

theorem runOn_loadLocation_of_error (loader : Loader σ) {location : Location} {s : BootState σ}
    {fault : IoFault} (h : s.machine.files.list location.dir = .error fault) :
    ∃ e, tellsOutcome e = false ∧
      (loadLocation loader location).runOn s = (.ok .empty, { s with log := s.log ++ [e] }) := by
  simp only [loadLocation, Boot.runOn_bind, Boot.runOn_files, h]
  split
  · exact ⟨_, rfl, rfl⟩
  · exact ⟨_, rfl, rfl⟩

/-- The loader is called once for each name of a listing that could be read and that ends in `.o`,
in the order of the listing and whatever it has answered before. The tally counts its answers, and
the log tells of each of them once. A location is its directory's listing, if it has one, and else
is passed over. -/
theorem accounting_of_location (loader : Loader σ) (location : Location) (s : BootState σ) :
    (∀ listing : List Entry,
      let names := (listing.filterMap Except.toOption).filter rawSuffix.isSuffixOf
      let paths := names.map fun name => location.dir.join ⟨name⟩
      let w := (s.machine, s.outside)
      let tried := attempts loader location names w
      ∃ report : Report, report.Accounts (tried.1.map fun a => a.2.value) ∧
        (loadListing loader location listing).runOn s =
          (.ok report, ⟨tried.2.1, tried.2.2, s.log ++ tried.1.flatMap attemptEvents,
            s.effects ++ paths.map fun path => .load path location⟩) ∧
        tried.1.map Prod.fst = paths ∧
        tried.2 = (paths.map fun path => (path, location)).foldl (called loader) w ∧
        ((∀ a ∈ tried.1, ∀ e ∈ a.2.events, tellsOutcome e = false) →
          (tried.1.flatMap attemptEvents).filter tellsOutcome =
            tried.1.map fun a => outcomeEvent a.1 a.2.value)) ∧
      (∀ names, s.machine.files.list location.dir = .ok names → names.Nodup ∧
        (loadLocation loader location).runOn s =
          (loadListing loader location (names.map .ok)).runOn s) ∧
      ∀ fault, s.machine.files.list location.dir = .error fault →
        ∃ e, tellsOutcome e = false ∧
          (loadLocation loader location).runOn s =
            (.ok .empty, { s with log := s.log ++ [e] }) := by
  refine ⟨?_, fun names h => ?_, fun fault h => ?_⟩
  · intro listing names paths w tried
    have hpaths : tried.1.map Prod.fst = paths := paths_attempts loader location names w
    refine ⟨_, accounts_foldl_add _, ?_, hpaths, ?_, filter_flatMap_attemptEvents⟩
    · rw [loadListing, objectNames_eq_filter, runOn_foldlM_loadObject s rfl, ← hpaths, List.map_map]
      rfl
    · rw [← hpaths, List.map_map]
      exact (foldl_called_attempts loader location names w).symm
  · exact ⟨nodup_of_list h, runOn_loadLocation_of_ok loader h⟩
  · exact runOn_loadLocation_of_error loader h

end BpfBoot.Load
