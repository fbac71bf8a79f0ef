import BpfBoot.Pipeline
import BpfBoot.Proofs.Stages
import BpfBoot.Proofs.Sweep

namespace BpfBoot

variable {σ τ : Type}

namespace InitScripts

theorem value_present (fs : FileSystem) (path : Path) :
    (present fs path).value = (fs.holds path).mapError fun source => ⟨path, source⟩ := by
  unfold present
  rcases fs.holds path with _ | _ | _ <;> rfl

theorem value_probe_eq_ok_iff {fs : FileSystem} {layout : Layout} {scripts : InitScripts} :
    (probe fs layout).value = .ok scripts ↔
      fs.holds layout.legacyScript = .ok scripts.legacy ∧
        fs.holds layout.newScript = .ok scripts.new := by
  obtain ⟨legacy, new⟩ := scripts
  simp only [probe, Logged.value_bind, value_present]
  rcases fs.holds layout.legacyScript with _ | _ <;> simp only [Except.mapError]
  · simp
  · rw [Logged.value_bind, value_present]
    rcases fs.holds layout.newScript with _ | _ <;> simp [Except.mapError]

end InitScripts

theorem Decision.resolve_eq_ok_iff {variant : Variant} {argv0 : String} {scripts : InitScripts}
    {decision : Decision} :
    resolve variant argv0 scripts = .ok decision ↔
      variant = .platform ∧ decision = .delegate .moduleEntry ∨
        variant = .module ∧ scripts = ⟨true, false⟩ ∧ decision = .delegate .legacyLoader ∨
          variant = .module ∧ scripts = ⟨false, true⟩ ∧ decision = .proceed := by
  obtain ⟨legacy, new⟩ := scripts
  cases variant with
  | platform | unknown => simp [resolve, eq_comm]
  | module => cases legacy <;> cases new <;> simp [resolve, eq_comm]

inductive Stage where
  | variant | gate | knobs | pins | sweep | maps
  deriving DecidableEq

def Stage.earlier : Stage → List Stage
  | .variant => []
  | .gate => [.variant]
  | .knobs => [.variant, .gate]
  | .pins => [.variant, .gate, .knobs]
  | .sweep => [.variant, .gate, .knobs, .pins]
  | .maps => [.variant, .gate, .knobs, .pins, .sweep]

structure Collaborators.Matches (rel : σ → τ → Prop) (a : Collaborators σ) (b : Collaborators τ) :
    Prop where
  loader : ∀ path location, BpfBoot.Matches rel (a.loader path location) (b.loader path location)
  maps : a.maps.Matches rel b.maps
  stall : ∀ seconds, BpfBoot.Matches rel (a.stall seconds) (b.stall seconds)

namespace Pipeline

open Load (Visit visits)

/-- What a run decides on, from the files that it finds. -/
def verdict (config : Config) (fs : FileSystem) (argv0 : String) : Except BootError Decision :=
  match (InitScripts.probe fs config.layout).value with
  | .error fault => .error (.probe fault.message)
  | .ok scripts =>
    (Decision.resolve (Variant.ofArgv0 argv0 config.layout) argv0 scripts).mapError undecided

theorem verdict_eq_ok_iff {config : Config} {fs : FileSystem} {argv0 : String}
    {decision : Decision} :
    verdict config fs argv0 = .ok decision ↔
      ∃ scripts : InitScripts,
        (fs.holds config.layout.legacyScript = .ok scripts.legacy ∧
            fs.holds config.layout.newScript = .ok scripts.new) ∧
          Decision.resolve (Variant.ofArgv0 argv0 config.layout) argv0 scripts = .ok decision := by
  simp only [← InitScripts.value_probe_eq_ok_iff, verdict]
  rcases (InitScripts.probe fs config.layout).value with _ | scripts
  · simp
  · rcases hresolve : Decision.resolve (Variant.ofArgv0 argv0 config.layout) argv0 scripts with _ | _ <;>
      simp [hresolve, Except.mapError]

theorem exitCode_of_verdict {config : Config} {fs : FileSystem} {argv0 : String} {e : BootError}
    (h : verdict config fs argv0 = .error e) : e.exitCode = 1 := by
  unfold verdict at h
  split at h
  · cases h
    rfl
  · next scripts _ =>
    rcases hresolve : Decision.resolve (Variant.ofArgv0 argv0 config.layout) argv0 scripts with why | _ <;>
      rw [hresolve] at h <;> cases h
    cases why <;> rfl

theorem runOn_decision (config : Config) (facts : Facts) (argv0 : String) (s : BootState σ) :
    ∃ log, (decision config facts argv0).runOn s =
      (verdict config s.machine.files argv0, { s with log }) := by
  simp only [decision, verdict, Boot.runOn_bind, Boot.runOn_files, Boot.runOn_judged,
    Boot.runOn_tell]
  rcases (InitScripts.probe s.machine.files config.layout).value with fault | scripts
  · exact ⟨_, rfl⟩
  · simp only [Except.mapError]
    rcases Decision.resolve (Variant.ofArgv0 argv0 config.layout) argv0 scripts with _ | _ <;>
      exact ⟨_, rfl⟩

theorem simulates_logVersions (rel : σ → τ → Prop) (config : Config) :
    Boot.Simulates rel (logVersions config) (logVersions config) :=
  .bind .files fun _ => .logged _

theorem simulates_decision (rel : σ → τ → Prop) (config : Config) (facts : Facts)
    (argv0 : String) :
    Boot.Simulates rel (decision config facts argv0) (decision config facts argv0) := by
  refine .bind .files fun fs => .bind (.judged _ _) fun scripts => .bind (.tell _) fun _ => ?_
  split
  · exact .pure _
  · exact .throw _

theorem simulates_target {rel : σ → τ → Prop} {a : Collaborators σ} {b : Collaborators τ}
    (h : a.Matches rel b) (config : Config) (facts : Facts) (argv0 : String) :
    Boot.Simulates rel (target config facts a argv0) (target config facts b argv0) := by
  refine .bind (simulates_decision rel config facts argv0) fun decided => ?_
  rcases decided with _ | _ | _ | _
  · refine .bind (simulates_logVersions rel config) fun _ => .bind (.bind (.judged _ _) fun _ => ?_)
      fun _ => .bind (.tell _) fun _ => .pure _
    exact .bind (Sysctl.simulates_apply rel _ _) fun _ =>
      .bind (Pin.simulates_createAll rel _ _) fun _ =>
        .bind (Load.simulates_loadAll h.loader h.stall _ _) fun _ => Sanity.simulates_check h.maps
  · exact .bind (.tell _) fun _ => .pure _
  · exact .bind (simulates_logVersions rel config) fun _ => .bind (.tell _) fun _ => .pure _
  · exact .bind (simulates_logVersions rel config) fun _ => .bind (.tell _) fun _ => .pure _

theorem alike_outcome (config : Config) (ended : Except BootError Target × BootState σ) :
    (outcome config ended).2.Alike Eq ended.2 := by
  rcases ended with ⟨_ | _, t⟩ <;> exact ⟨rfl, rfl, rfl⟩

theorem run_of_matches {rel : σ → τ → Prop} {a : Collaborators σ} {b : Collaborators τ}
    (h : a.Matches rel b) (config : Config) (facts : Facts) (argv0 : String) {s : BootState σ}
    {t : BootState τ} (hst : s.Alike rel t) :
    (run config facts a argv0 s).1 = (run config facts b argv0 t).1 ∧
      (run config facts a argv0 s).2.Alike rel (run config facts b argv0 t).2 := by
  obtain ⟨hresult, halike⟩ := simulates_target h config facts argv0 s t hst
  rw [run, run]
  generalize (target config facts a argv0).runOn s = x at hresult halike
  generalize (target config facts b argv0).runOn t = y at hresult halike
  obtain ⟨r, u⟩ := x
  obtain ⟨_, v⟩ := y
  cases hresult
  cases r with
  | ok next => exact ⟨rfl, halike⟩
  | error e => exact ⟨rfl, halike.machine, halike.outside, halike.effects⟩

section Stages

variable (config : Config) (facts : Facts) (given : Collaborators σ) (argv0 : String)
  (s : BootState σ)

/-- What the knobs, and then each stage after them, come to in a run from `s` if no stage before it
ends the run. -/
def knobs : Except BootError Unit × BootState σ :=
  (Sysctl.apply config.layout.sysctlRoot facts).runOn s

def pins : Except BootError Unit × BootState σ :=
  (Pin.createAll config.layout.pinRoot config.locations).runOn (knobs config facts s).2

def sweep : Except BootError Unit × BootState σ :=
  (Load.loadAll given.loader given.stall config.stall config.locations).runOn
    (pins config facts s).2

def maps : Except BootError Unit × BootState σ :=
  (Sanity.check given.maps).runOn (sweep config facts given s).2

def swept : List Visit × (Machine × σ) :=
  visits given.loader config.locations
    ((pins config facts s).2.machine, (pins config facts s).2.outside)

structure IsReady (fs : FileSystem) : Prop where
  variant : Variant.ofArgv0 argv0 config.layout = .module
  legacy : fs.holds config.layout.legacyScript = .ok false
  new : fs.holds config.layout.newScript = .ok true

/-- What it means for each stage to come to a good end. -/
def Passes : Stage → Prop
  | .variant => IsReady config argv0 s.machine.files
  | .gate => (Gate.check facts).value = .ok ()
  | .knobs => (knobs config facts s).1 = .ok ()
  | .pins => (pins config facts s).1 = .ok ()
  | .sweep => (sweep config facts given s).1 = .ok ()
  | .maps => (maps config facts given s).1 = .ok ()

def Reaches (stage : Stage) : Prop := ∀ earlier ∈ stage.earlier, Passes config facts given argv0 s earlier

/-- The ways a run can go: where it ends, with what result and in which state. -/
inductive Course : Except BootError Target → BootState σ → Prop
  | undecided {e t} (h : verdict config s.machine.files argv0 = .error e) (ht : t.Alike Eq s) :
      Course (.error e) t
  | delegated {next t} (h : verdict config s.machine.files argv0 = .ok (.delegate next))
      (ht : t.Alike Eq s) : Course (.ok next) t
  | refused {refusal t} (hreach : Reaches config facts given argv0 s .gate)
      (h : (Gate.check facts).value = .error refusal) (ht : t.Alike Eq s) :
      Course (.error (.capability refusal.message)) t
  | untuned {e t} (hreach : Reaches config facts given argv0 s .knobs)
      (h : (knobs config facts s).1 = .error e) (ht : t.Alike Eq (knobs config facts s).2) :
      Course (.error e) t
  | unpinned {e t} (hreach : Reaches config facts given argv0 s .pins)
      (h : (pins config facts s).1 = .error e) (ht : t.Alike Eq (pins config facts s).2) :
      Course (.error e) t
  | unloaded {e t} (hreach : Reaches config facts given argv0 s .sweep)
      (h : (sweep config facts given s).1 = .error e)
      (ht : t.Alike Eq (sweep config facts given s).2) : Course (.error e) t
  | unsound {e t} (hreach : Reaches config facts given argv0 s .maps)
      (h : (maps config facts given s).1 = .error e)
      (ht : t.Alike Eq (maps config facts given s).2) : Course (.error e) t
  | finished {t} (hreach : Reaches config facts given argv0 s .maps)
      (h : (maps config facts given s).1 = .ok ())
      (ht : t.Alike Eq (maps config facts given s).2) : Course (.ok .secondStage) t

end Stages

variable {config : Config} {facts : Facts} {given : Collaborators σ} {argv0 : String}
  {s : BootState σ}

theorem isReady_iff {fs : FileSystem} :
    IsReady config argv0 fs ↔ verdict config fs argv0 = .ok .proceed := by
  rw [verdict_eq_ok_iff]
  constructor
  · intro h
    refine ⟨⟨false, true⟩, ⟨h.legacy, h.new⟩, ?_⟩
    rw [h.variant]
    rfl
  · rintro ⟨scripts, ⟨hlegacy, hnew⟩, hresolve⟩
    rcases Decision.resolve_eq_ok_iff.1 hresolve with ⟨-, hd⟩ | ⟨-, -, hd⟩ | ⟨hvariant, rfl, -⟩
    · cases hd
    · cases hd
    · exact ⟨hvariant, hlegacy, hnew⟩

theorem reaches_iff (stage after : Stage) (hafter : after.earlier = stage.earlier ++ [stage]) :
    Reaches config facts given argv0 s after ↔
      Reaches config facts given argv0 s stage ∧ Passes config facts given argv0 s stage := by
  simp only [Reaches, hafter, List.forall_mem_append, List.forall_mem_singleton]

/-- From the gate on, each stage that fails ends the run. -/
theorem course_of_work (hreach : Reaches config facts given argv0 s .gate) {t : BootState σ}
    (ht : t.Alike Eq s) :
    Course config facts given argv0 s ((carryOut config facts given .proceed).runOn t).1
      ((carryOut config facts given .proceed).runOn t).2 := by
  simp only [carryOut, work, bind_assoc]
  obtain ⟨u, hu, ⟨e, he, hrun⟩ | ⟨⟨⟩, -, hrun⟩⟩ :=
    (simulates_logVersions Eq config).runOn_bind_cases ht _
  · cases he
  rw [hrun, Boot.runOn_bind, Boot.runOn_judged]
  -- Each stage meets a state that differs from the one it is judged on in the log at most.
  have hgated (log : List Event) : BootState.Alike Eq { u with log } s :=
    ⟨hu.machine, hu.outside, hu.effects⟩
  rcases hgate : (Gate.check facts).value with refusal | ⟨⟩
  · exact .refused hreach hgate (hgated _)
  have hreach := (reaches_iff .gate .knobs rfl).2 ⟨hreach, hgate⟩
  simp only [Except.mapError]
  obtain ⟨u, hu, ⟨e, he, hrun⟩ | ⟨⟨⟩, hok, hrun⟩⟩ :=
    (Sysctl.simulates_apply Eq config.layout.sysctlRoot facts).runOn_bind_cases (hgated _) _ <;>
    rw [hrun]
  · exact .untuned hreach he hu
  have hreach := (reaches_iff .knobs .pins rfl).2 ⟨hreach, hok⟩
  obtain ⟨u, hu, ⟨e, he, hrun⟩ | ⟨⟨⟩, hok, hrun⟩⟩ :=
    (Pin.simulates_createAll Eq config.layout.pinRoot config.locations).runOn_bind_cases hu _ <;>
    rw [hrun]
  · exact .unpinned hreach he hu
  have hreach := (reaches_iff .pins .sweep rfl).2 ⟨hreach, hok⟩
  obtain ⟨u, hu, ⟨e, he, hrun⟩ | ⟨⟨⟩, hok, hrun⟩⟩ :=
    (Load.simulates_loadAll (fun _ _ => .refl _) (fun _ => .refl _) config.stall
      config.locations).runOn_bind_cases hu _ <;>
    rw [hrun]
  · exact .unloaded hreach he hu
  have hreach := (reaches_iff .sweep .maps rfl).2 ⟨hreach, hok⟩
  obtain ⟨u, hu, ⟨e, he, hrun⟩ | ⟨⟨⟩, hok, hrun⟩⟩ :=
    (Sanity.simulates_check (.refl given.maps)).runOn_bind_cases hu _ <;>
    rw [hrun]
  · exact .unsound hreach he hu
  · exact .finished hreach hok ⟨hu.machine, hu.outside, hu.effects⟩

theorem course_of_target (config : Config) (facts : Facts) (given : Collaborators σ)
    (argv0 : String) (s : BootState σ) :
    Course config facts given argv0 s ((target config facts given argv0).runOn s).1
      ((target config facts given argv0).runOn s).2 := by
  obtain ⟨log, hdecision⟩ := runOn_decision config facts argv0 s
  rw [target, Boot.runOn_bind, hdecision]
  have ht (log : List Event) : BootState.Alike Eq { s with log } s := ⟨rfl, rfl, rfl⟩
  rcases hverdict : verdict config s.machine.files argv0 with e | _ | next
  · exact .undecided hverdict (ht _)
  · have hready : Passes config facts given argv0 s .variant := isReady_iff.2 hverdict
    exact course_of_work (fun earlier hearlier => by rwa [List.mem_singleton.1 hearlier]) (ht _)
  · cases next with
    | moduleEntry => exact .delegated hverdict (ht _)
    | legacyLoader | secondStage => exact .delegated hverdict (ht _)

theorem sweep_cases (config : Config) (facts : Facts) (given : Collaborators σ)
    (s : BootState σ) :
    ((∀ v ∈ (swept config facts given s).1, ¬v.IsCritical) ∧
        ∃ log, sweep config facts given s =
          (.ok (), ⟨(swept config facts given s).2.1, (swept config facts given s).2.2, log,
            (pins config facts s).2.effects ++
              (swept config facts given s).1.flatMap Visit.effects⟩)) ∨
      ∃ v ∈ (swept config facts given s).1, v.IsCritical ∧
        ∃ errno log, sweep config facts given s =
          (.error (.criticalLoad v.location.dir errno),
            ⟨(given.stall config.stall (swept config facts given s).2).2.1,
              (given.stall config.stall (swept config facts given s).2).2.2, log,
              (pins config facts s).2.effects ++
                (swept config facts given s).1.flatMap Visit.effects ++ [.stall config.stall]⟩) :=
  Load.runOn_loadAll given.loader given.stall config.stall config.locations _ rfl

theorem passes_sweep_iff :
    Passes config facts given argv0 s .sweep ↔
      ∀ v ∈ (swept config facts given s).1, ¬v.IsCritical := by
  rw [Passes]
  obtain ⟨hnone, log, h⟩ | ⟨v, hv, hcritical, errno, log, h⟩ := sweep_cases config facts given s <;>
    rw [h]
  · exact iff_of_true rfl hnone
  · exact iff_of_false (fun hok => nomatch hok) fun hnone => hnone v hv hcritical

theorem works_knobs (config : Config) (facts : Facts) (s : BootState σ) :
    s.Works 0 (knobs config facts s).2 :=
  (Sysctl.isWork_apply config.layout.sysctlRoot facts s).1

theorem works_pins (config : Config) (facts : Facts) (s : BootState σ) :
    (knobs config facts s).2.Works 1 (pins config facts s).2 :=
  (Pin.isWork_createAll config.layout.pinRoot config.locations _).1

theorem maps_cases (config : Config) (facts : Facts) (given : Collaborators σ)
    (s : BootState σ) :
    (∃ e, (maps config facts given s).1 = .error e ∧ e.exitCode = 1 ∧
        (maps config facts given s).2.effects =
          (sweep config facts given s).2.effects ++ [.createMap]) ∨
      ((∃ handle, (given.maps.create Sanity.shape
            ((sweep config facts given s).2.machine, (sweep config facts given s).2.outside)).1 =
          .ok handle) ∧
        (∀ e, (maps config facts given s).1 = .error e → e.exitCode = 1) ∧
        (maps config facts given s).2.effects =
          (sweep config facts given s).2.effects ++ [.createMap, .writeMap]) := by
  obtain ⟨fault, m, o, log, -, h⟩ | ⟨handle, w, written, m, o, log, hcreate, -, h⟩ :=
    Sanity.runOn_check given.maps (sweep config facts given s).2
  · exact .inl ⟨_, congrArg Prod.fst h, rfl, congrArg (·.2.effects) h⟩
  · refine .inr ⟨⟨handle, congrArg Prod.fst hcreate⟩, fun e he => ?_, congrArg (·.2.effects) h⟩
    rw [maps, h] at he
    cases written <;> cases he
    rfl

theorem Course.of_delegate {r : Except BootError Target} {t : BootState σ} {next : Target}
    (h : Course config facts given argv0 s r t)
    (hverdict : verdict config s.machine.files argv0 = .ok (.delegate next)) :
    r = .ok next ∧ t.Alike Eq s := by
  have hready : ¬Passes config facts given argv0 s .variant := fun hready => by
    have := hverdict.symm.trans (isReady_iff.1 hready)
    cases this
  cases h with
  | undecided h =>
      have := h.symm.trans hverdict
      cases this
  | delegated h ht =>
      have := h.symm.trans hverdict
      cases this
      exact ⟨rfl, ht⟩
  | refused hreach | untuned hreach | unpinned hreach | unloaded hreach | unsound hreach
  | finished hreach => exact absurd (hreach .variant (by decide)) hready

theorem Course.of_reaches {r : Except BootError Target} {t : BootState σ}
    (h : Course config facts given argv0 s r t)
    (hreach : Reaches config facts given argv0 s .sweep) :
    (∃ e, (sweep config facts given s).1 = .error e ∧ r = .error e ∧
        t.Alike Eq (sweep config facts given s).2) ∨
      Passes config facts given argv0 s .sweep ∧
        r = (maps config facts given s).1.map (fun _ => .secondStage) ∧
        t.Alike Eq (maps config facts given s).2 := by
  have hready := isReady_iff.1 (hreach .variant (by decide))
  cases h with
  | undecided h =>
      have := h.symm.trans hready
      cases this
  | delegated h =>
      have := h.symm.trans hready
      cases this
  | refused _ h =>
      have := h.symm.trans (hreach .gate (by decide))
      cases this
  | untuned _ h =>
      have := h.symm.trans (hreach .knobs (by decide))
      cases this
  | unpinned _ h =>
      have := h.symm.trans (hreach .pins (by decide))
      cases this
  | unloaded _ h ht => exact .inl ⟨_, h, rfl, ht⟩
  | unsound hreach h ht =>
      rw [h]
      exact .inr ⟨hreach .sweep (by decide), rfl, ht⟩
  | finished hreach h ht =>
      rw [h]
      exact .inr ⟨hreach .sweep (by decide), rfl, ht⟩

/-- What follows a stage, unless the stage fails: then that is the end. -/
def unlessFailed (stage : Except BootError Unit × BootState σ)
    (next : Except BootError Target × BootState σ) : Except BootError Target × BootState σ :=
  match stage.1 with
  | .error e => (.error e, stage.2)
  | .ok () => next

theorem unlessFailed_of_error {stage : Except BootError Unit × BootState σ} {e : BootError}
    (h : stage.1 = .error e) (next : Except BootError Target × BootState σ) :
    unlessFailed stage next = (.error e, stage.2) := by
  rw [unlessFailed, h]

theorem unlessFailed_of_ok {stage : Except BootError Unit × BootState σ} (h : stage.1 = .ok ())
    (next : Except BootError Target × BootState σ) : unlessFailed stage next = next := by
  rw [unlessFailed, h]

def gated (facts : Facts) (s : BootState σ) : Except BootError Unit × BootState σ :=
  ((Gate.check facts).value.mapError fun refusal => .capability refusal.message, s)

def conclusionFromPins (config : Config) (facts : Facts) (given : Collaborators σ)
    (s : BootState σ) : Except BootError Target × BootState σ :=
  unlessFailed (pins config facts s) <| unlessFailed (sweep config facts given s) <|
    unlessFailed (maps config facts given s) (.ok .secondStage, (maps config facts given s).2)

/-- What a run comes to, with the state that the stage it ends in has left. -/
def conclusion (config : Config) (facts : Facts) (given : Collaborators σ) (argv0 : String)
    (s : BootState σ) : Except BootError Target × BootState σ :=
  match verdict config s.machine.files argv0 with
  | .error e => (.error e, s)
  | .ok (.delegate next) => (.ok next, s)
  | .ok .proceed =>
    unlessFailed (gated facts s) <| unlessFailed (knobs config facts s) <|
      conclusionFromPins config facts given s

theorem conclusion_of_ready
    (h : verdict config s.machine.files argv0 = .ok .proceed) :
    conclusion config facts given argv0 s =
      unlessFailed (gated facts s)
        (unlessFailed (knobs config facts s) (conclusionFromPins config facts given s)) := by
  rw [conclusion, h]

theorem conclusion_of_knobs (h : Reaches config facts given argv0 s .knobs) :
    conclusion config facts given argv0 s =
      unlessFailed (knobs config facts s) (conclusionFromPins config facts given s) := by
  have hgate : (Gate.check facts).value = .ok () := h .gate (by decide)
  rw [conclusion_of_ready (isReady_iff.1 (h .variant (by decide))), unlessFailed_of_ok]
  rw [gated, hgate]
  rfl

theorem conclusion_of_pins (h : Reaches config facts given argv0 s .pins) :
    conclusion config facts given argv0 s = conclusionFromPins config facts given s := by
  obtain ⟨hreach, hknobs⟩ := (reaches_iff .knobs .pins rfl).1 h
  rw [conclusion_of_knobs hreach, unlessFailed_of_ok hknobs]

theorem Course.eq_conclusion {r : Except BootError Target} {t : BootState σ}
    (h : Course config facts given argv0 s r t) :
    r = (conclusion config facts given argv0 s).1 ∧
      t.Alike Eq (conclusion config facts given argv0 s).2 := by
  cases h with
  | undecided h ht | delegated h ht =>
      rw [conclusion, h]
      exact ⟨rfl, ht⟩
  | @refused refusal _ hreach h ht =>
      have hgated : (gated facts s).1 = .error (.capability refusal.message) := by
        rw [gated, h]
        rfl
      rw [conclusion_of_ready (isReady_iff.1 (hreach .variant (by decide))),
        unlessFailed_of_error hgated]
      exact ⟨rfl, ht⟩
  | untuned hreach h ht =>
      rw [conclusion_of_knobs hreach, unlessFailed_of_error h]
      exact ⟨rfl, ht⟩
  | unpinned hreach h ht =>
      rw [conclusion_of_pins hreach, conclusionFromPins, unlessFailed_of_error h]
      exact ⟨rfl, ht⟩
  | unloaded hreach h ht =>
      obtain ⟨hreach, hpins⟩ := (reaches_iff .pins .sweep rfl).1 hreach
      rw [conclusion_of_pins hreach, conclusionFromPins, unlessFailed_of_ok hpins,
        unlessFailed_of_error h]
      exact ⟨rfl, ht⟩
  | unsound hreach h ht =>
      obtain ⟨hreach, hsweep⟩ := (reaches_iff .sweep .maps rfl).1 hreach
      obtain ⟨hreach, hpins⟩ := (reaches_iff .pins .sweep rfl).1 hreach
      rw [conclusion_of_pins hreach, conclusionFromPins, unlessFailed_of_ok hpins,
        unlessFailed_of_ok hsweep, unlessFailed_of_error h]
      exact ⟨rfl, ht⟩
  | finished hreach h ht =>
      obtain ⟨hreach, hsweep⟩ := (reaches_iff .sweep .maps rfl).1 hreach
      obtain ⟨hreach, hpins⟩ := (reaches_iff .pins .sweep rfl).1 hreach
      rw [conclusion_of_pins hreach, conclusionFromPins, unlessFailed_of_ok hpins,
        unlessFailed_of_ok hsweep, unlessFailed_of_ok h]
      exact ⟨rfl, ht⟩

theorem outcome_congr {a b : Except BootError Target × BootState σ} (h : a.1 = b.1) :
    (outcome config a).1 = (outcome config b).1 := by
  obtain ⟨r, u⟩ := a
  obtain ⟨r', v⟩ := b
  obtain rfl : r = r' := h
  cases r <;> rfl

theorem run_eq_conclusion (config : Config) (facts : Facts) (given : Collaborators σ)
    (argv0 : String) (s : BootState σ) :
    (run config facts given argv0 s).1 =
        (outcome config (conclusion config facts given argv0 s)).1 ∧
      (run config facts given argv0 s).2.machine =
        (conclusion config facts given argv0 s).2.machine := by
  obtain ⟨hresult, halike⟩ := (course_of_target config facts given argv0 s).eq_conclusion
  exact ⟨outcome_congr hresult, (alike_outcome config _).machine.trans halike.machine⟩

end Pipeline

end BpfBoot
