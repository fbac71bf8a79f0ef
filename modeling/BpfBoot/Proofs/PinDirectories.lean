import BpfBoot.Files.Plant
import BpfBoot.Proofs.Course

namespace BpfBoot

open FileSystem (Provides)

variable {σ α : Type}

def beside (step : StateM (Machine × σ) α) : StateM (Machine × (σ × Option Machine)) α := fun w =>
  ((step (w.1, w.2.1)).1, (step (w.1, w.2.1)).2.1, (step (w.1, w.2.1)).2.2, w.2.2)

/-- The same collaborators, with a note of the machine that the loader is first called on. -/
def Collaborators.watched (given : Collaborators σ) : Collaborators (σ × Option Machine) where
  loader path location := fun w =>
    let called := given.loader path location (w.1, w.2.1)
    (called.1, called.2.1, called.2.2, w.2.2.or (some w.1))
  maps :=
    { Handle := given.maps.Handle
      create := fun shape => beside (given.maps.create shape)
      write := fun handle key value flags => beside (given.maps.write handle key value flags) }
  stall seconds := beside (given.stall seconds)

theorem matches_beside (step : StateM (Machine × σ) α) :
    Matches (fun o p => p.1 = o) step (beside step) := by
  rintro m o ⟨p, note⟩ rfl
  exact ⟨rfl, rfl, rfl⟩

theorem Collaborators.matches_watched (given : Collaborators σ) :
    given.Matches (fun o p => p.1 = o) given.watched := by
  refine ⟨?_, ⟨id, fun shape => ?_, fun handle key value flags => matches_beside _⟩,
    fun seconds => matches_beside _⟩
  · rintro path location m o ⟨p, note⟩ rfl
    exact ⟨rfl, rfl, rfl⟩
  · have hcreate : BpfBoot.Matches (fun o p => p.1 = o)
        (Except.map id <$> given.maps.create shape) (beside (given.maps.create shape)) := by
      rw [map_map_id]
      exact matches_beside _
    exact hcreate

/-- The machine is `first` as long as the loader has not been called, and it is called on it. -/
def Noting (first : Machine) (w : Machine × (σ × Option Machine)) : Prop :=
  w.2.2 = none ∧ w.1 = first ∨ w.2.2 = some first

namespace Load

variable {given : Collaborators σ} {first : Machine} {w : Machine × (σ × Option Machine)}

theorem noting_loader (h : Noting first w) (path : Path) (location : Location) :
    Noting first (given.watched.loader path location w).2 := by
  refine .inr ?_
  rcases h with ⟨hnone, rfl⟩ | hsome
  · exact congrArg (Option.or · (some w.1)) hnone
  · exact congrArg (Option.or · (some w.1)) hsome

theorem noting_attempts (h : Noting first w) (location : Location) (names : List Path.Name) :
    Noting first (attempts given.watched.loader location names w).2 := by
  induction names generalizing w with
  | nil => exact h
  | cons name names ih => exact ih (noting_loader h _ location)

theorem noting_visits (h : Noting first w) (locations : List Location) :
    Noting first (visits given.watched.loader locations w).2 := by
  induction locations generalizing w with
  | nil => exact h
  | cons location rest ih =>
      have hvisit : Noting first (visit given.watched.loader location w).2 :=
        noting_attempts h location _
      rw [visits_cons]
      dsimp only
      split
      · exact ih hvisit
      · exact hvisit

end Load

namespace Pipeline

variable {config : Config} {facts : Facts} {given : Collaborators σ} {argv0 : String}
  {s t : BootState (σ × Option Machine)} {u : BootState σ} {r : Except BootError Target}

theorem note_sweep (config : Config) (facts : Facts) (given : Collaborators σ)
    (s : BootState (σ × Option Machine)) :
    (sweep config facts given.watched s).2.outside.2 =
      (swept config facts given.watched s).2.2.2 := by
  obtain ⟨-, log, h⟩ | ⟨v, -, -, errno, log, h⟩ := sweep_cases config facts given.watched s <;> rw [h]
  rfl

theorem note_maps (config : Config) (facts : Facts) (given : Collaborators σ)
    (s : BootState (σ × Option Machine)) :
    (maps config facts given.watched s).2.outside.2 =
      (swept config facts given.watched s).2.2.2 := by
  rw [← note_sweep]
  obtain ⟨fault, m, o, log, hcreate, h⟩ | ⟨handle, w, written, m, o, log, hcreate, hwrite, h⟩ :=
    Sanity.runOn_check given.watched.maps (sweep config facts given.watched s).2
  · rw [maps, h]
    exact congrArg (·.2.2.2) hcreate.symm
  · rw [maps, h]
    exact (congrArg (·.2.2.2) hwrite.symm).trans (congrArg (·.2.2.2) hcreate.symm)

/-- A loader that was called was so in the sweep, on the machine that the sweep began with. -/
theorem Course.first_call (h : Course config facts given.watched argv0 s r t)
    (hs : s.outside.2 = none) {first : Machine} (ht : t.outside.2 = some first) :
    Reaches config facts given.watched argv0 s .sweep ∧
      first = (pins config facts s).2.machine := by
  have hknobs : (knobs config facts s).2.outside.2 = none := by
    rw [(works_knobs config facts s).outside, hs]
  have hpins : (pins config facts s).2.outside.2 = none := by
    rw [(works_pins config facts s).outside, hknobs]
  -- No stage before the sweep calls the loader, and none after it does.
  have hnoting : Noting (pins config facts s).2.machine (swept config facts given.watched s).2 :=
    Load.noting_visits (.inl ⟨hpins, rfl⟩) config.locations
  have hswept (hnote : t.outside.2 = (swept config facts given.watched s).2.2.2) :
      first = (pins config facts s).2.machine := by
    rcases hnoting with ⟨hnone, -⟩ | hsome
    · cases ht.symm.trans (hnote.trans hnone)
    · exact Option.some.inj (ht.symm.trans (hnote.trans hsome))
  cases h with
  | undecided _ h | delegated _ h | refused _ _ h => cases ht.symm.trans (h.outside ▸ hs)
  | untuned _ _ h => cases ht.symm.trans (h.outside ▸ hknobs)
  | unpinned _ _ h => cases ht.symm.trans (h.outside ▸ hpins)
  | unloaded hreach _ h =>
      exact ⟨hreach, hswept (by rw [h.outside, note_sweep])⟩
  | unsound hreach _ h | finished hreach _ h =>
      exact ⟨((reaches_iff .sweep .maps rfl).1 hreach).1, hswept (by rw [h.outside, note_maps])⟩

theorem provides_pins (hreach : Reaches config facts given argv0 u .sweep) {pin : String}
    (hmem : pin ∈ Pin.names config.locations) (hpin : pin ≠ "") :
    Provides u.machine.files (pins config facts u).2.machine.files
      (config.layout.pinRoot.join (.ofString pin)) := by
  have hok : (pins config facts u).1 = .ok () := hreach .pins (by decide)
  rw [pins, Pin.createAll_eq_forM] at hok ⊢
  exact Pin.provides_forM (works_knobs config facts u).files hok hmem hpin

/-- Noting the first call of the loader changes nothing of a run, and on the machine of that call
every pin directory is there, unless its path led to no directory before the run and the entry that
it names was there already. -/
theorem pins_at_first_call (config : Config) (facts : Facts) (given : Collaborators σ)
    (argv0 : String) (machine : Machine) (outside : σ) :
    let plain := run config facts given argv0 (.start machine outside)
    let watched := run config facts given.watched argv0 (.start machine (outside, none))
    (watched.1 = plain.1 ∧ watched.2.machine = plain.2.machine ∧
        watched.2.effects = plain.2.effects) ∧
      ∀ first, watched.2.outside.2 = some first →
        ∀ pin ∈ Pin.names config.locations, pin ≠ "" →
          Provides machine.files first.files (config.layout.pinRoot.join (.ofString pin)) := by
  intro plain watched
  have hsame := run_of_matches given.matches_watched config facts argv0
    (s := .start machine outside) (t := .start machine (outside, none)) ⟨rfl, rfl, rfl⟩
  refine ⟨⟨hsame.1.symm, hsame.2.machine.symm, hsame.2.effects.symm⟩, ?_⟩
  intro first hfirst pin hmem hpin
  have hcourse := course_of_target config facts given.watched argv0 (.start machine (outside, none))
  have hnote : ((target config facts given.watched argv0).runOn
      (.start machine (outside, none))).2.outside.2 = some first := by
    rw [← (alike_outcome config _).outside]
    exact hfirst
  obtain ⟨hreach, rfl⟩ := hcourse.first_call rfl hnote
  exact provides_pins hreach hmem hpin

def willing : Collaborators Unit where
  loader _ _ := pure (pure .loaded)
  maps := ⟨Unit, fun _ => pure (.ok ()), fun _ _ _ _ => pure (.ok ())⟩
  stall _ := pure ()

def settledFacts : Facts where
  kernel := ⟨5, 15, 0⟩
  isX86 := false
  isKernel64 := true
  isUser32 := false
  api := 33
  build := .user

def linked : Machine where
  files := (((FileSystem.empty.plant
    (.ofString "r/system/etc/init/netbpfload.rc") (.file [] none)).plant
    (.ofString "r/sys/fs/bpf/loader") (.link (.ofString "old"))).plant
    (.ofString "r/sys/fs/bpf/old") (.directory 0o755)).plant
    (.ofString "r/apex/com.android.tethering/etc/bpf/a.o") (.file [] none)
  umask := 0o022

theorem pins_at_first_call_linked :
    ∃ first, (run (Config.rootedAt "r") settledFacts willing.watched
          "r/apex/com.android.tethering/bin/netbpfload" (.start linked ((), none))).2.outside.2 =
        some first ∧
      ∃ mode, first.files.look ((Config.rootedAt "r").layout.pinRoot.join
          (.ofString Location.reservedPin)) = .ok (.directory mode) := by
  have hcalled : (run (Config.rootedAt "r") settledFacts willing.watched
      "r/apex/com.android.tethering/bin/netbpfload" (.start linked ((), none))).2.outside.2.isSome =
        true := by
    decide +kernel
  have hled : linked.files.look ((Config.rootedAt "r").layout.pinRoot.join
      (.ofString Location.reservedPin)) = .ok (.directory 0o755) := by
    decide +kernel
  obtain ⟨first, hfirst⟩ := Option.isSome_iff_exists.1 hcalled
  have hprovided := (pins_at_first_call (Config.rootedAt "r") settledFacts willing
    "r/apex/com.android.tethering/bin/netbpfload" linked ()).2 first hfirst Location.reservedPin
    (List.mem_append_right _ List.mem_cons_self) (by decide)
  rcases hprovided with hinside | hobstructed
  · exact ⟨first, hfirst, hinside⟩
  · exact absurd ⟨_, hled⟩ hobstructed.no_directory

def cluttered : Machine where
  files := ((FileSystem.empty.plant (.ofString "r/system/etc/init/netbpfload.rc") (.file [] none)).plant
    (.ofString "r/sys/fs/bpf/loader") (.file [] none)).plant
    (.ofString "r/apex/com.android.tethering/etc/bpf/a.o") (.file [] none)
  umask := 0o022

theorem file_at_first_call :
    ¬∀ first, (run (Config.rootedAt "r") settledFacts willing.watched
          "r/apex/com.android.tethering/bin/netbpfload" (.start cluttered ((), none))).2.outside.2 =
        some first →
      ∀ pin ∈ Pin.names (Config.rootedAt "r").locations, pin ≠ "" →
        ∃ mode, first.files.look ((Config.rootedAt "r").layout.pinRoot.join (.ofString pin)) =
          .ok (.directory mode) := by
  intro h
  have hfile : ((run (Config.rootedAt "r") settledFacts willing.watched
      "r/apex/com.android.tethering/bin/netbpfload" (.start cluttered ((), none))).2.outside.2.map
        fun first => (first.files.look ((Config.rootedAt "r").layout.pinRoot.join
          (.ofString Location.reservedPin))).toOption) = some (some (.file [] none)) := by
    decide +kernel
  obtain ⟨first, hfirst, hlook⟩ := Option.map_eq_some_iff.1 hfile
  have hreserved : Location.reservedPin ∈ Pin.names (Config.rootedAt "r").locations :=
    List.mem_append_right _ List.mem_cons_self
  obtain ⟨mode, hmode⟩ := h first hfirst Location.reservedPin hreserved (by decide)
  rw [hmode] at hlook
  cases hlook

end Pipeline

end BpfBoot
