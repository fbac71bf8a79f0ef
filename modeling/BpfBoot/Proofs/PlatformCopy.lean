import BpfBoot.Proofs.PinDirectories
import BpfBoot.Proofs.Trace

namespace BpfBoot

variable {σ : Type}

namespace FileSystem

/-- A path can be looked for: what is not found at it is simply not there. -/
def CanLookFor (fs : FileSystem) (path : Path) : Prop :=
  ∀ fault, fs.look path = .error fault → fault = .os .noEntry

theorem canLookFor_iff {fs : FileSystem} {path : Path} :
    fs.CanLookFor path ↔ ∃ there, fs.holds path = .ok there := by
  unfold CanLookFor holds
  rcases fs.look path with fault | node
  · by_cases hfault : fault = .os .noEntry <;> simp [hfault]
  · simp

end FileSystem

namespace Pipeline

open FileSystem (CanLookFor)

variable {config : Config} {facts : Facts} {given : Collaborators σ} {argv0 : String}
  {s t : BootState σ} {r : Except BootError Target}

theorem not_reaches_of_ne_module (hcopy : Variant.ofArgv0 argv0 config.layout ≠ .module)
    {stage : Stage} (hstage : .variant ∈ stage.earlier) :
    ¬Reaches config facts given argv0 s stage :=
  fun hreach => hcopy (hreach .variant hstage).variant

theorem alike_of_ne_module (config : Config) (facts : Facts) (given : Collaborators σ)
    (argv0 : String) (s : BootState σ)
    (hcopy : Variant.ofArgv0 argv0 config.layout ≠ .module) :
    (run config facts given argv0 s).2.Alike Eq s := by
  have hcourse := course_of_target config facts given argv0 s
  exact (alike_outcome config _).trans
    (hcourse.alike_of_not_reaches (not_reaches_of_ne_module hcopy (by decide)))

theorem Course.of_ne_module (h : Course config facts given argv0 s r t)
    (hcopy : Variant.ofArgv0 argv0 config.layout ≠ .module) :
    r = .ok .moduleEntry ∧ Variant.ofArgv0 argv0 config.layout = .platform ∨
      ∃ e, r = .error e ∧ e.exitCode = 1 := by
  cases r with
  | ok next =>
      have hover := (h.eq_ok_iff next).1 rfl
      cases next with
      | moduleEntry => exact .inl ⟨rfl, hover.1⟩
      | legacyLoader => exact absurd hover.1 hcopy
      | secondStage => exact absurd hover.1 (not_reaches_of_ne_module hcopy (by decide))
  | error e =>
      refine .inr ⟨e, rfl, ?_⟩
      rcases h.exitCode rfl with ⟨-, hfails⟩ | ⟨hcode, -⟩
      · exact absurd hfails.1 (not_reaches_of_ne_module hcopy (by decide))
      · exact hcode

/-- A run of the platform's copy hands over to the module's entry just when both init scripts can be
looked for, whether or not they are there, and fails otherwise. Neither way does it call the loader,
touch a map or change the machine. -/
theorem run_of_platform (config : Config) (facts : Facts) (given : Collaborators σ)
    (argv0 : String) (machine : Machine) (outside : σ)
    (hplatform : Variant.ofArgv0 argv0 config.layout = .platform) :
    let ended := run config facts given argv0 (.start machine outside)
    (ended.1 = .exec config.layout.moduleEntry ↔
        machine.files.CanLookFor config.layout.legacyScript ∧
          machine.files.CanLookFor config.layout.newScript) ∧
      (ended.1 = .exec config.layout.moduleEntry ∨ ended.1 = .exit 1) ∧
      ended.2.effects = [] ∧ ended.2.machine = machine ∧ ended.2.outside = outside := by
  intro ended
  have hcourse := course_of_target config facts given argv0 (.start machine outside)
  have hended : ended = outcome config
      ((target config facts given argv0).runOn (.start machine outside)) := rfl
  have hlooks : HandsOver config facts given argv0 (.start machine outside) .moduleEntry ↔
      machine.files.CanLookFor config.layout.legacyScript ∧
        machine.files.CanLookFor config.layout.newScript := by
    simp only [HandsOver, FileSystem.canLookFor_iff, hplatform, true_and]
    rfl
  have hcopy : Variant.ofArgv0 argv0 config.layout ≠ .module := by
    rw [hplatform]
    decide
  have halike : ended.2.Alike Eq (.start machine outside) :=
    alike_of_ne_module config facts given argv0 _ hcopy
  rcases hrun : (target config facts given argv0).runOn (.start machine outside) with ⟨r, t⟩
  rw [hrun] at hcourse hended
  have hsame : ended.2.effects = [] ∧ ended.2.machine = machine ∧ ended.2.outside = outside :=
    ⟨halike.effects, halike.machine, halike.outside⟩
  have hover := (hcourse.eq_ok_iff .moduleEntry).trans hlooks
  rw [← hover]
  rw [hended] at hsame ⊢
  rcases hcourse.of_ne_module hcopy with ⟨rfl, -⟩ | ⟨e, rfl, hcode⟩
  · exact ⟨iff_of_true rfl rfl, .inl rfl, hsame⟩
  · have hexit : (outcome config (.error e, t)).1 = .exit 1 := congrArg Outcome.exit hcode
    rw [hexit]
    exact ⟨iff_of_false (fun h => nomatch h) (fun h => nomatch h), .inr rfl, hsame⟩

def platformEntry : String := "r/system/bin/netbpfload"

def doubled : Machine where
  files := (FileSystem.empty.plant (.ofString "r/system/etc/init/bpfloader.rc")
    (.file [] none)).plant (.ofString "r/system/etc/init/netbpfload.rc") (.file [] none)
  umask := 0o022

theorem run_of_platform_doubled :
    Variant.ofArgv0 platformEntry (Config.rootedAt "r").layout = .platform ∧
      (run (Config.rootedAt "r") settledFacts willing platformEntry (.start doubled ())).1 =
        .exec (Config.rootedAt "r").layout.moduleEntry := by
  have hplatform : Variant.ofArgv0 platformEntry (Config.rootedAt "r").layout = .platform := by
    decide +kernel
  have hfound {path : Path} (h : (doubled.files.holds path).toOption = some true) :
      doubled.files.CanLookFor path := by
    rw [FileSystem.canLookFor_iff]
    rcases hpath : doubled.files.holds path with fault | there
    · rw [hpath] at h
      cases h
    · exact ⟨there, rfl⟩
  exact ⟨hplatform, (run_of_platform (Config.rootedAt "r") settledFacts willing platformEntry
    doubled () hplatform).1.2 ⟨hfound (by decide +kernel), hfound (by decide +kernel)⟩⟩

def blocked : Machine where
  files := FileSystem.empty.plant (.ofString "r/system/etc/init") (.file [] none)
  umask := 0o022

theorem platform_stopped_by_file :
    ¬∀ machine : Machine, Variant.ofArgv0 platformEntry (Config.rootedAt "r").layout = .platform →
      (run (Config.rootedAt "r") settledFacts willing platformEntry (.start machine ())).1 =
        .exec (Config.rootedAt "r").layout.moduleEntry := by
  intro h
  have hexec := h blocked (by decide +kernel)
  have hexit : (run (Config.rootedAt "r") settledFacts willing platformEntry
      (.start blocked ())).1 = .exit 1 := by
    decide +kernel
  rw [hexit] at hexec
  cases hexec

end Pipeline

end BpfBoot
