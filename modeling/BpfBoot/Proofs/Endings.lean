import BpfBoot.Proofs.Course

namespace BpfBoot

def Effect.stall? : Effect → Option Nat
  | .stall seconds => some seconds
  | _ => none

theorem Effect.stall?_eq_none {e : Effect} (h : e.rank < 3) : e.stall? = none := by
  cases e with
  | stall => cases Nat.lt_irrefl 3 h
  | writeKnob | makeDirectory | load | createMap | writeMap => rfl

variable {σ : Type}

theorem BootState.Works.stalls {rank : Nat} {s t : BootState σ} (h : s.Works rank t)
    (hrank : rank < 3) :
    t.effects.filterMap Effect.stall? = s.effects.filterMap Effect.stall? := by
  obtain ⟨done, heffects, hdone⟩ := h.effects
  have hnone : done.filterMap Effect.stall? = [] :=
    List.filterMap_eq_nil_iff.2 fun e he => Effect.stall?_eq_none (by rwa [hdone e he])
  rw [heffects, List.filterMap_append, hnone, List.append_nil]

namespace Load

theorem rank_of_mem_effects {vs : List Visit} {e : Effect} (h : e ∈ vs.flatMap Visit.effects) :
    e.rank = 2 := by
  obtain ⟨v, -, he⟩ := List.mem_flatMap.1 h
  obtain ⟨a, -, rfl⟩ := List.mem_map.1 he
  rfl

theorem stalls_effects (vs : List Visit) :
    (vs.flatMap Visit.effects).filterMap Effect.stall? = [] :=
  List.filterMap_eq_nil_iff.2 fun _ he => Effect.stall?_eq_none (by rw [rank_of_mem_effects he]; decide)

end Load

namespace Pipeline

section

variable (config : Config) (facts : Facts) (given : Collaborators σ) (argv0 : String)
  (s : BootState σ)

/-- When a run hands over to a target. -/
def HandsOver : Target → Prop
  | .moduleEntry =>
    Variant.ofArgv0 argv0 config.layout = .platform ∧
      (∃ legacy, s.machine.files.holds config.layout.legacyScript = .ok legacy) ∧
      ∃ new, s.machine.files.holds config.layout.newScript = .ok new
  | .legacyLoader =>
    Variant.ofArgv0 argv0 config.layout = .module ∧
      s.machine.files.holds config.layout.legacyScript = .ok true ∧
      s.machine.files.holds config.layout.newScript = .ok false
  | .secondStage =>
    Reaches config facts given argv0 s .sweep ∧
      (∀ v ∈ (swept config facts given s).1, ¬v.IsCritical) ∧ Passes config facts given argv0 s .maps

def FailsCritically : Prop :=
  Reaches config facts given argv0 s .sweep ∧ ∃ v ∈ (swept config facts given s).1, v.IsCritical

end

variable {config : Config} {facts : Facts} {given : Collaborators σ} {argv0 : String}
  {s t : BootState σ} {r : Except BootError Target}

theorem handsOver_moduleEntry_iff :
    HandsOver config facts given argv0 s .moduleEntry ↔
      verdict config s.machine.files argv0 = .ok (.delegate .moduleEntry) := by
  rw [verdict_eq_ok_iff]
  constructor
  · rintro ⟨hvariant, ⟨legacy, hlegacy⟩, new, hnew⟩
    exact ⟨⟨legacy, new⟩, ⟨hlegacy, hnew⟩, by rw [hvariant]; rfl⟩
  · rintro ⟨scripts, ⟨hlegacy, hnew⟩, hresolve⟩
    rcases Decision.resolve_eq_ok_iff.1 hresolve with ⟨hvariant, -⟩ | ⟨-, -, hd⟩ | ⟨-, -, hd⟩
    · exact ⟨hvariant, ⟨_, hlegacy⟩, _, hnew⟩
    · cases hd
    · cases hd

theorem handsOver_legacyLoader_iff :
    HandsOver config facts given argv0 s .legacyLoader ↔
      verdict config s.machine.files argv0 = .ok (.delegate .legacyLoader) := by
  rw [verdict_eq_ok_iff]
  constructor
  · rintro ⟨hvariant, hlegacy, hnew⟩
    exact ⟨⟨true, false⟩, ⟨hlegacy, hnew⟩, by rw [hvariant]; rfl⟩
  · rintro ⟨scripts, ⟨hlegacy, hnew⟩, hresolve⟩
    rcases Decision.resolve_eq_ok_iff.1 hresolve with ⟨-, hd⟩ | ⟨hvariant, rfl, -⟩ | ⟨-, -, hd⟩
    · cases hd
    · exact ⟨hvariant, hlegacy, hnew⟩
    · cases hd

theorem verdict_ne_secondStage {fs : FileSystem} :
    verdict config fs argv0 ≠ .ok (.delegate .secondStage) := by
  rw [Ne, verdict_eq_ok_iff]
  rintro ⟨scripts, -, hresolve⟩
  rcases Decision.resolve_eq_ok_iff.1 hresolve with ⟨-, hd⟩ | ⟨-, -, hd⟩ | ⟨-, -, hd⟩ <;> cases hd

theorem Course.eq_ok_iff_of_delegate (h : Course config facts given argv0 s r t) {next : Target}
    (hnext : next ≠ .secondStage) :
    r = .ok next ↔ verdict config s.machine.files argv0 = .ok (.delegate next) := by
  refine ⟨fun hr => ?_, fun hverdict => (h.of_delegate hverdict).1⟩
  cases h with
  | delegated h =>
      cases hr
      exact h
  | finished =>
      cases hr
      exact absurd rfl hnext
  | undecided | refused | untuned | unpinned | unloaded | unsound => cases hr

/-- The result of a run is a target just when the target's condition is met. -/
theorem Course.eq_ok_iff (h : Course config facts given argv0 s r t) (next : Target) :
    r = .ok next ↔ HandsOver config facts given argv0 s next := by
  cases next with
  | moduleEntry => rw [handsOver_moduleEntry_iff, h.eq_ok_iff_of_delegate (by decide)]
  | legacyLoader => rw [handsOver_legacyLoader_iff, h.eq_ok_iff_of_delegate (by decide)]
  | secondStage =>
      constructor
      · intro hr
        cases h with
        | delegated h =>
            cases hr
            exact absurd h verdict_ne_secondStage
        | finished hreach h =>
            obtain ⟨hreach, hsweep⟩ := (reaches_iff .sweep .maps rfl).1 hreach
            exact ⟨hreach, passes_sweep_iff.1 hsweep, h⟩
        | undecided | refused | untuned | unpinned | unloaded | unsound => cases hr
      · rintro ⟨hreach, hsweep, hmaps⟩
        rcases h.of_reaches hreach with ⟨e, he, -⟩ | ⟨-, rfl, -⟩
        · have hpasses : Passes config facts given argv0 s .sweep := passes_sweep_iff.2 hsweep
          cases he.symm.trans hpasses
        · rw [show (maps config facts given s).1 = .ok () from hmaps]
          rfl

theorem Course.of_failsCritically (h : Course config facts given argv0 s r t)
    (hfails : FailsCritically config facts given argv0 s) :
    ∃ e, r = .error e ∧ e.exitCode = 2 := by
  obtain ⟨hreach, u, hu, hucritical⟩ := hfails
  rcases h.of_reaches hreach with ⟨e, he, hr, -⟩ | ⟨hpasses, -⟩
  · obtain ⟨hnone, -⟩ | ⟨v, -, -, errno, log, hsweep⟩ := sweep_cases config facts given s
    · exact absurd hucritical (hnone u hu)
    · rw [hsweep] at he
      cases he
      exact ⟨_, hr, rfl⟩
  · exact absurd hucritical (passes_sweep_iff.1 hpasses u hu)

/-- The exit code is two just when the sweep fails; every other failure has one. -/
theorem Course.exitCode (h : Course config facts given argv0 s r t) {e : BootError}
    (hr : r = .error e) :
    e.exitCode = 2 ∧ FailsCritically config facts given argv0 s ∨
      e.exitCode = 1 ∧ ¬FailsCritically config facts given argv0 s := by
  by_cases hfails : FailsCritically config facts given argv0 s
  · obtain ⟨e', he', hcode⟩ := h.of_failsCritically hfails
    cases hr.symm.trans he'
    exact .inl ⟨hcode, hfails⟩
  refine .inr ⟨?_, hfails⟩
  cases h with
  | delegated | finished => cases hr
  | undecided h =>
      cases hr
      exact exitCode_of_verdict h
  | refused =>
      cases hr
      rfl
  | untuned _ h =>
      cases hr
      exact (Sysctl.isWork_apply config.layout.sysctlRoot facts s).2 _ h
  | unpinned _ h =>
      cases hr
      exact (Pin.isWork_createAll config.layout.pinRoot config.locations _).2 _ h
  | unloaded hreach h =>
      obtain ⟨-, log, hsweep⟩ | ⟨v, hv, hcritical, -⟩ := sweep_cases config facts given s
      · rw [hsweep] at h
        cases h
      · exact absurd ⟨hreach, v, hv, hcritical⟩ hfails
  | unsound _ h =>
      cases hr
      obtain ⟨e', he, hcode, -⟩ | ⟨-, hcode, -⟩ := maps_cases config facts given s
      · cases he.symm.trans h
        exact hcode
      · exact hcode _ h

theorem stalls_pins (config : Config) (facts : Facts) (s : BootState σ) :
    (pins config facts s).2.effects.filterMap Effect.stall? =
      s.effects.filterMap Effect.stall? := by
  rw [(works_pins config facts s).stalls (by decide), (works_knobs config facts s).stalls (by decide)]

theorem stalls_sweep (hpasses : Passes config facts given argv0 s .sweep) :
    (sweep config facts given s).2.effects.filterMap Effect.stall? =
      s.effects.filterMap Effect.stall? := by
  have hnone := passes_sweep_iff.1 hpasses
  obtain ⟨-, log, h⟩ | ⟨v, hv, hcritical, -⟩ := sweep_cases config facts given s
  · rw [h, List.filterMap_append, Load.stalls_effects, List.append_nil, stalls_pins]
  · exact absurd hcritical (hnone v hv)

theorem stalls_maps (hpasses : Passes config facts given argv0 s .sweep) :
    (maps config facts given s).2.effects.filterMap Effect.stall? =
      s.effects.filterMap Effect.stall? := by
  obtain ⟨-, -, -, h⟩ | ⟨-, -, h⟩ := maps_cases config facts given s <;>
    rw [h, List.filterMap_append, stalls_sweep hpasses] <;> exact List.append_nil _

theorem Course.stalls (h : Course config facts given argv0 s r t) :
    FailsCritically config facts given argv0 s ∧
        t.effects.filterMap Effect.stall? = s.effects.filterMap Effect.stall? ++ [config.stall] ∧
        (t.machine, t.outside) = (given.stall config.stall (swept config facts given s).2).2 ∨
      ¬FailsCritically config facts given argv0 s ∧
        t.effects.filterMap Effect.stall? = s.effects.filterMap Effect.stall? := by
  by_cases hfails : FailsCritically config facts given argv0 s
  · refine .inl ⟨hfails, ?_⟩
    obtain ⟨hreach, u, hu, hucritical⟩ := hfails
    obtain ⟨hnone, -⟩ | ⟨v, hv, hcritical, errno, log, hsweep⟩ := sweep_cases config facts given s
    · exact absurd hucritical (hnone u hu)
    rcases h.of_reaches hreach with ⟨e, -, -, ht⟩ | ⟨hpasses, -⟩
    · rw [hsweep] at ht
      refine ⟨?_, Prod.ext ht.machine ht.outside⟩
      rw [ht.effects, List.filterMap_append, List.filterMap_append, Load.stalls_effects, stalls_pins,
        List.append_nil]
      rfl
    · exact absurd hcritical (passes_sweep_iff.1 hpasses v hv)
  · refine .inr ⟨hfails, ?_⟩
    cases h with
    | undecided _ ht | delegated _ ht | refused _ _ ht => rw [ht.effects]
    | untuned _ _ ht => rw [ht.effects, (works_knobs config facts s).stalls (by decide)]
    | unpinned _ _ ht => rw [ht.effects, stalls_pins]
    | unloaded hreach h =>
        obtain ⟨-, log, hsweep⟩ | ⟨v, hv, hcritical, -⟩ := sweep_cases config facts given s
        · rw [hsweep] at h
          cases h
        · exact absurd ⟨hreach, v, hv, hcritical⟩ hfails
    | unsound hreach _ ht | finished hreach _ ht =>
        rw [ht.effects, stalls_maps (hreach .sweep (by decide))]

/-- What a run comes to: each target under its own condition, exit code two after a critical
failure, one in all other cases; and only the critical failure makes a run wait. -/
theorem ending_of_run (config : Config) (facts : Facts) (given : Collaborators σ)
    (argv0 : String) (machine : Machine) (outside : σ) :
    let s : BootState σ := .start machine outside
    let ended := run config facts given argv0 s
    (∀ next, ((target config facts given argv0).runOn s).1 = .ok next ↔
        HandsOver config facts given argv0 s next) ∧
      (∀ next, HandsOver config facts given argv0 s next →
        ended.1 = .exec (config.layout.target next)) ∧
      (ended.1 = .exit 2 ↔ FailsCritically config facts given argv0 s) ∧
      (ended.1 = .exit 1 ↔ ¬FailsCritically config facts given argv0 s ∧
        ∀ next, ¬HandsOver config facts given argv0 s next) ∧
      ended.1 ≠ .exit 0 ∧
      (FailsCritically config facts given argv0 s ∧
          ended.2.effects.filterMap Effect.stall? = [config.stall] ∧
          (ended.2.machine, ended.2.outside) =
            (given.stall config.stall (swept config facts given s).2).2 ∨
        ¬FailsCritically config facts given argv0 s ∧
          ended.2.effects.filterMap Effect.stall? = []) := by
  intro s ended
  have hcourse := course_of_target config facts given argv0 s
  have hended : ended = outcome config ((target config facts given argv0).runOn s) := rfl
  have hok := hcourse.eq_ok_iff
  have hstalls := hcourse.stalls
  rcases htarget : (target config facts given argv0).runOn s with ⟨e | next, t⟩ <;>
    rw [htarget] at hcourse hended hok hstalls
  -- A run that fails meets the condition of no target, and one with a target fails in no stage.
  · have hnone (next : Target) : ¬HandsOver config facts given argv0 s next := fun hover => by
      cases (hok next).2 hover
    have hcode := hcourse.exitCode rfl
    rw [hended]
    refine ⟨hok, fun next hover => absurd hover (hnone next), ?_, ?_, ?_, hstalls⟩ <;>
      rcases hcode with ⟨hcode, hfails⟩ | ⟨hcode, hfails⟩ <;>
      simp [outcome, hcode, hfails, hnone]
  · have hover := (hok next).1 rfl
    have hfails : ¬FailsCritically config facts given argv0 s := fun hfails => by
      obtain ⟨e, he, -⟩ := hcourse.of_failsCritically hfails
      cases he
    rw [hended]
    refine ⟨hok, fun other hother => ?_, ?_, ?_, ?_, hstalls⟩
    · cases (hok other).2 hother
      rfl
    · simp [outcome, hfails]
    · simp only [outcome, reduceCtorEq, false_iff, not_and]
      exact fun _ hnone => hnone next hover
    · simp [outcome]

end Pipeline

end BpfBoot
