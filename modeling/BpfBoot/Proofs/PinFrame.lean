import Mathlib
import BpfBoot.Proofs.Repeats

namespace BpfBoot

variable {σ τ : Type}

namespace FileSystem

variable {fs gs hs : FileSystem} {mode : Mode} {added more : List Place}

/-- `gs` is `fs` with directories of one mode at places where nothing was. -/
structure AddsDirectories (mode : Mode) (added : List Place) (fs gs : FileSystem) : Prop where
  workDir : gs.workDir = fs.workDir
  vacant : ∀ place ∈ added, fs.node? place = none
  node : ∀ place, gs.node? place = if place ∈ added then some (.directory mode) else fs.node? place

theorem AddsDirectories.refl (mode : Mode) (fs : FileSystem) : AddsDirectories mode [] fs fs :=
  ⟨rfl, List.forall_mem_nil _, fun _ => rfl⟩

theorem AddsDirectories.trans (h : AddsDirectories mode added fs gs)
    (h' : AddsDirectories mode more gs hs) : AddsDirectories mode (added ++ more) fs hs := by
  refine ⟨h'.workDir.trans h.workDir, fun place hplace => ?_, fun place => ?_⟩
  · rcases List.mem_append.1 hplace with hadded | hmore
    · exact h.vacant place hadded
    · have hnone := h'.vacant place hmore
      rw [h.node] at hnone
      split at hnone
      · cases hnone
      · exact hnone
  · rw [h'.node, h.node]
    by_cases hmore : place ∈ more <;> simp [hmore]

theorem adds_makeDirectory {umask : Mode} {p : Path}
    (h : fs.makeDirectory umask mode p = (.ok (), gs)) :
    ∃ place, AddsDirectories (mode &&& ~~~umask) [place] fs gs ∧ gs.resolve p = .ok place := by
  obtain ⟨dir, name, hparent, hshort, hnone, hmade⟩ | ⟨fault, hmade, -⟩ :=
    makeDirectory_cases umask mode p fs
  · obtain rfl : fs.put (name :: dir) (.directory (mode &&& ~~~umask)) = gs :=
      (Prod.mk.inj (hmade.symm.trans h)).2
    obtain ⟨old, hdir⟩ := node?_of_resolveParent hparent
    have hnode := node?_put (List.cons_ne_nil name dir)
      (fits_directory hdir name (mode &&& ~~~umask))
    refine ⟨name :: dir, ⟨workDir_put .., ?_, fun place => ?_⟩, ?_⟩
    · exact fun place hplace => List.mem_singleton.1 hplace ▸ hnone
    · rw [hnode]
      simp only [List.mem_singleton]
    · exact resolve_of_resolveParent ((grows_put_directory hnone _).resolveParent hparent) hshort
        ((hnode (name :: dir)).trans (if_pos rfl))
  · cases hmade.symm.trans h

end FileSystem

namespace Pin

open FileSystem (AddsDirectories Grows)

variable {root : Path} {fs gs : FileSystem} {pins before after : List String} {pin : String}
  {fault : IoFault} {s : BootState σ}

def calls (root : Path) (pins : List String) : List Effect :=
  (pins.filter (· ≠ "")).map fun pin => .makeDirectory (root.join (.ofString pin))

theorem calls_append (root : Path) (pins more : List String) :
    calls root (pins ++ more) = calls root pins ++ calls root more := by
  rw [calls, List.filter_append, List.map_append]
  rfl

theorem calls_singleton (hpin : pin ≠ "") (root : Path) :
    calls root [pin] = [.makeDirectory (root.join (.ofString pin))] := by
  simp [calls, hpin]

/-- Pin directories are made one after the other; an entry in the way of one is as good. -/
inductive Makes (root : Path) : FileSystem → List String → FileSystem → Prop
  | done (fs : FileSystem) : Makes root fs [] fs
  | idle {fs gs : FileSystem} {pins : List String} (rest : Makes root fs pins gs) :
      Makes root fs ("" :: pins) gs
  | made {fs fs' gs : FileSystem} {pin : String} {pins : List String} (hpin : pin ≠ "")
      (h : fs.makeDirectory 0 mode (root.join (.ofString pin)) = (.ok (), fs'))
      (rest : Makes root fs' pins gs) : Makes root fs (pin :: pins) gs
  | found {fs gs : FileSystem} {pin : String} {pins : List String} (hpin : pin ≠ "")
      (h : fs.makeDirectory 0 mode (root.join (.ofString pin)) = (.error (.os .alreadyExists), fs))
      (rest : Makes root fs pins gs) : Makes root fs (pin :: pins) gs

theorem Makes.grows (h : Makes root fs pins gs) : fs.Grows gs := by
  induction h with
  | done fs => exact .refl fs
  | idle _ ih => exact ih
  | @made fs fs' gs pin pins _ h _ ih =>
      have hgrows := FileSystem.grows_makeDirectory 0 mode (root.join (.ofString pin)) fs
      rw [h] at hgrows
      exact hgrows.trans ih
  | found _ _ _ ih => exact ih

theorem Makes.adds (h : Makes root fs pins gs) :
    ∃ added, AddsDirectories mode added fs gs ∧
      ∀ place ∈ added, ∃ pin ∈ pins, pin ≠ "" ∧ gs.resolve (root.join (.ofString pin)) = .ok place := by
  induction h with
  | done fs => exact ⟨[], .refl mode fs, List.forall_mem_nil _⟩
  | idle _ ih | found _ _ _ ih =>
      obtain ⟨added, hadds, hplaces⟩ := ih
      refine ⟨added, hadds, fun place hplace => ?_⟩
      obtain ⟨pin, hmem, hpin⟩ := hplaces place hplace
      exact ⟨pin, List.mem_cons_of_mem _ hmem, hpin⟩
  | @made fs fs' gs pin pins hpin h rest ih =>
      obtain ⟨place, hfirst, hleads⟩ := FileSystem.adds_makeDirectory h
      obtain ⟨added, hadds, hplaces⟩ := ih
      refine ⟨[place] ++ added, hfirst.trans hadds, fun q hq => ?_⟩
      rcases List.mem_cons.1 hq with rfl | hq
      · exact ⟨pin, List.mem_cons_self, hpin, rest.grows.resolve hleads⟩
      · obtain ⟨other, hmem, hother⟩ := hplaces q hq
        exact ⟨other, List.mem_cons_of_mem pin hmem, hother⟩

theorem Makes.occupied (h : Makes root fs pins gs) :
    ∀ pin ∈ pins, pin ≠ "" → gs.Occupied (root.join (.ofString pin)) := by
  induction h with
  | done fs => exact List.forall_mem_nil _
  | idle _ ih => exact List.forall_mem_cons.2 ⟨fun hpin => absurd rfl hpin, ih⟩
  | made _ h rest ih =>
      have hoccupied := FileSystem.occupied_of_made (congrArg Prod.fst h)
      rw [h] at hoccupied
      exact List.forall_mem_cons.2 ⟨fun _ => hoccupied.grows rest.grows, ih⟩
  | found _ h rest ih =>
      have hoccupied := (FileSystem.occupied_of_makeDirectory (congrArg Prod.fst h)).2
      exact List.forall_mem_cons.2 ⟨fun _ => hoccupied.grows rest.grows, ih⟩

/-- All that making the directories can come to: every one is there in the end, or the first call
that fails for another reason than an entry in its way is the last one. -/
theorem makes_or_fails (root : Path) (pins : List String) (fs : FileSystem) :
    (∃ gs, Makes root fs pins gs) ∨
      ∃ before pin after gs fault, pins = before ++ pin :: after ∧ pin ≠ "" ∧
        Makes root fs before gs ∧ fault ≠ .os .alreadyExists ∧
        gs.makeDirectory 0 mode (root.join (.ofString pin)) = (.error fault, gs) := by
  induction pins generalizing fs with
  | nil => exact .inl ⟨fs, .done fs⟩
  | cons pin pins ih =>
      have hstep {fs'} (hmakes : ∀ {pins gs}, Makes root fs' pins gs → Makes root fs (pin :: pins) gs) :
          (∃ gs, Makes root fs (pin :: pins) gs) ∨
            ∃ before other after gs fault, pin :: pins = before ++ other :: after ∧ other ≠ "" ∧
              Makes root fs before gs ∧ fault ≠ .os .alreadyExists ∧
              gs.makeDirectory 0 mode (root.join (.ofString other)) = (.error fault, gs) := by
        obtain ⟨gs, h⟩ | ⟨before, other, after, gs, fault, rfl, hother, h, hfault, hfails⟩ := ih fs'
        · exact .inl ⟨gs, hmakes h⟩
        · exact .inr ⟨pin :: before, other, after, gs, fault, rfl, hother, hmakes h, hfault, hfails⟩
      by_cases hpin : pin = ""
      · subst hpin
        exact hstep .idle
      rcases h : fs.makeDirectory 0 mode (root.join (.ofString pin)) with ⟨fault | ⟨⟩, fs'⟩
      · obtain rfl : fs' = fs := by
          have hleft := FileSystem.files_of_failed (congrArg Prod.fst h)
          rwa [h] at hleft
        by_cases hexists : fault = .os .alreadyExists
        · subst hexists
          exact hstep (.found hpin h)
        · exact .inr ⟨[], pin, pins, fs', fault, rfl, hpin, .done fs', hexists, h⟩
      · exact hstep (.made hpin h)

def leftBy (root : Path) (pins : List String) (gs : FileSystem) (log : List Event)
    (s : BootState σ) : BootState σ :=
  { s with machine.files := gs, log, effects := s.effects ++ calls root pins }

theorem leftBy_leftBy (root : Path) (pins more : List String) (gs hs : FileSystem)
    (log log' : List Event) (s : BootState σ) :
    leftBy root more hs log' (leftBy root pins gs log s) = leftBy root (pins ++ more) hs log' s := by
  simp only [leftBy, List.append_assoc, calls_append]

theorem machine_leftBy (root : Path) (pins : List String) (log : List Event) (s : BootState σ) :
    (leftBy root pins s.machine.files log s).machine = s.machine := rfl

theorem runOn_create_of_ok (hpin : pin ≠ "")
    (h : s.machine.files.makeDirectory 0 mode (root.join (.ofString pin)) = (.ok (), gs)) :
    ∃ log, (create root pin).runOn s = (.ok (), leftBy root [pin] gs log s) := by
  obtain ⟨log, hrun⟩ := runOn_create hpin root s
  refine ⟨log, ?_⟩
  rw [hrun, h, leftBy, calls_singleton hpin]

theorem runOn_create_of_error (hpin : pin ≠ "") (hfault : fault ≠ .os .alreadyExists)
    (h : s.machine.files.makeDirectory 0 mode (root.join (.ofString pin)) = (.error fault, gs)) :
    ∃ log, (create root pin).runOn s =
      (.error (.pinDir (root.join (.ofString pin)) fault), leftBy root [pin] gs log s) := by
  obtain ⟨log, hrun⟩ := runOn_create hpin root s
  refine ⟨log, ?_⟩
  rw [hrun, h, leftBy, calls_singleton hpin]
  simp only [hfault, if_false]

theorem runOn_create_of_exists (hpin : pin ≠ "")
    (h : s.machine.files.makeDirectory 0 mode (root.join (.ofString pin)) =
      (.error (.os .alreadyExists), s.machine.files)) :
    (create root pin).runOn s = (.ok (), leftBy root [pin] s.machine.files s.log s) := by
  have hempty : pin.isEmpty = false := by simpa using hpin
  simp [create, hempty, Boot.runOn_bind, makeDirectory, h, leftBy, calls_singleton hpin]

theorem runOn_of_makes (h : Makes root s.machine.files pins gs) :
    ∃ log, (pins.forM (create root)).runOn s = (.ok (), leftBy root pins gs log s) := by
  generalize hfs : s.machine.files = fs at h
  induction h generalizing s with
  | done fs =>
      subst hfs
      exact ⟨s.log, by simp [leftBy, calls]⟩
  | idle _ ih =>
      obtain ⟨log, hrest⟩ := ih hfs
      exact ⟨log, (Boot.runOn_forM_of_ok (runOn_create_empty root s) _).trans hrest⟩
  | @made fs fs' gs pin pins hpin h _ ih =>
      subst hfs
      obtain ⟨log, hfirst⟩ := runOn_create_of_ok hpin h
      obtain ⟨log', hrest⟩ := @ih (leftBy root [pin] fs' log s) rfl
      exact ⟨log', by rw [Boot.runOn_forM_of_ok hfirst, hrest, leftBy_leftBy, List.singleton_append]⟩
  | @found fs gs pin pins hpin h _ ih =>
      subst hfs
      have hfirst := runOn_create_of_exists hpin h
      obtain ⟨log, hrest⟩ := @ih (leftBy root [pin] s.machine.files s.log s) rfl
      exact ⟨log, by rw [Boot.runOn_forM_of_ok hfirst, hrest, leftBy_leftBy, List.singleton_append]⟩

theorem runOn_of_fails (h : Makes root s.machine.files before gs) (hpin : pin ≠ "")
    (hfault : fault ≠ .os .alreadyExists)
    (hfails : gs.makeDirectory 0 mode (root.join (.ofString pin)) = (.error fault, gs))
    (after : List String) :
    ∃ log, ((before ++ pin :: after).forM (create root)).runOn s =
      (.error (.pinDir (root.join (.ofString pin)) fault),
        leftBy root (before ++ [pin]) gs log s) := by
  obtain ⟨log, hbefore⟩ := runOn_of_makes h
  obtain ⟨log', hlast⟩ := runOn_create_of_error (s := leftBy root before gs log s) hpin hfault hfails
  refine ⟨log', ?_⟩
  rw [List.forM_eq_forM, List.forM_append, Boot.runOn_bind, ← List.forM_eq_forM, hbefore]
  simp only [Boot.runOn_forM_of_error hlast, leftBy_leftBy]

theorem runOn_of_occupied
    (h : ∀ pin ∈ pins, pin ≠ "" → s.machine.files.Occupied (root.join (.ofString pin))) :
    (pins.forM (create root)).runOn s = (.ok (), leftBy root pins s.machine.files s.log s) := by
  induction pins generalizing s with
  | nil => simp [leftBy, calls]
  | cons pin pins ih =>
      obtain ⟨hfirst, hrest⟩ := List.forall_mem_cons.1 h
      by_cases hpin : pin = ""
      · subst hpin
        exact (Boot.runOn_forM_of_ok (runOn_create_empty root s) pins).trans (ih hrest)
      · have hexists := FileSystem.makeDirectory_of_occupied (hfirst hpin) 0 mode
        have hothers := ih (s := leftBy root [pin] s.machine.files s.log s) hrest
        rw [Boot.runOn_forM_of_ok (runOn_create_of_exists hpin hexists), hothers, leftBy_leftBy]
        rfl

theorem makes_of_occupied
    (h : ∀ pin ∈ pins, pin ≠ "" → fs.Occupied (root.join (.ofString pin))) : Makes root fs pins fs := by
  induction pins with
  | nil => exact .done fs
  | cons pin pins ih =>
      obtain ⟨hfirst, hrest⟩ := List.forall_mem_cons.1 h
      by_cases hpin : pin = ""
      · subst hpin
        exact .idle (ih hrest)
      · exact .found hpin (FileSystem.makeDirectory_of_occupied (hfirst hpin) 0 mode) (ih hrest)

theorem runOn_createAll (root : Path) (locations : List Location) (s : BootState σ) :
    (∃ gs log, Makes root s.machine.files (names locations) gs ∧
        (createAll root locations).runOn s = (.ok (), leftBy root (names locations) gs log s)) ∨
      ∃ before pin after gs fault log, names locations = before ++ pin :: after ∧ pin ≠ "" ∧
        Makes root s.machine.files before gs ∧ fault ≠ .os .alreadyExists ∧
        gs.makeDirectory 0 mode (root.join (.ofString pin)) = (.error fault, gs) ∧
        (createAll root locations).runOn s =
          (.error (.pinDir (root.join (.ofString pin)) fault),
            leftBy root (before ++ [pin]) gs log s) := by
  rw [createAll_eq_forM]
  obtain ⟨gs, h⟩ | ⟨before, pin, after, gs, fault, hnames, hpin, h, hfault, hfails⟩ :=
    makes_or_fails root (names locations) s.machine.files
  · obtain ⟨log, hrun⟩ := runOn_of_makes h
    exact .inl ⟨gs, log, h, hrun⟩
  · obtain ⟨log, hrun⟩ := runOn_of_fails h hpin hfault hfails after
    rw [← hnames] at hrun
    exact .inr ⟨before, pin, after, gs, fault, log, hnames, hpin, h, hfault, hfails, hrun⟩

/-- The machine keeps all but its files, its mask for new directories too. The files gain
directories of mode 01777 alone, each where a path that was asked for leads. In the end every entry
that was asked for is there; or else the first call that fails for another reason than an entry in
its way ends the run, and every entry asked for before it is there. -/
theorem createAll_frame (root : Path) (locations : List Location) (s : BootState σ) :
    let path (pin : String) := root.join (.ofString pin)
    let ended := (createAll root locations).runOn s
    let fs := s.machine.files
    let gs := ended.2.machine.files
    ended.2.machine = { s.machine with files := gs } ∧
      (∃ added, AddsDirectories 0o1777 added fs gs ∧
        ∀ place ∈ added, ∃ pin ∈ names locations, pin ≠ "" ∧ gs.resolve (path pin) = .ok place) ∧
      ((ended.1 = .ok () ∧ Makes root fs (names locations) gs ∧
          ended.2.effects = s.effects ++ calls root (names locations) ∧
          ∀ pin ∈ names locations, pin ≠ "" → gs.Occupied (path pin)) ∨
        ∃ before pin after fault, names locations = before ++ pin :: after ∧ pin ≠ "" ∧
          ended.1 = .error (.pinDir (path pin) fault) ∧ Makes root fs before gs ∧
          gs.makeDirectory 0 0o1777 (path pin) = (.error fault, gs) ∧ fault ≠ .os .alreadyExists ∧
          ended.2.effects = s.effects ++ calls root (before ++ [pin]) ∧
          ∀ other ∈ before, other ≠ "" → gs.Occupied (path other)) := by
  intro path ended fs gs
  obtain ⟨gs', log, h, hrun⟩ |
    ⟨before, pin, after, gs', fault, log, hnames, hpin, h, hfault, hfails, hrun⟩ :=
      runOn_createAll root locations s
  · have hended : ended = (.ok (), leftBy root (names locations) gs' log s) := hrun
    have hgs : gs = gs' := congrArg (·.2.machine.files) hended
    rw [hgs, hended]
    exact ⟨rfl, h.adds, .inl ⟨rfl, h, rfl, h.occupied⟩⟩
  · have hended : ended = (_, leftBy root (before ++ [pin]) gs' log s) := hrun
    have hgs : gs = gs' := congrArg (·.2.machine.files) hended
    rw [hgs, hended]
    refine ⟨rfl, ?_, .inr ⟨before, pin, after, fault, hnames, hpin, rfl, h, hfails, hfault, rfl,
      h.occupied⟩⟩
    obtain ⟨added, hadds, hplaces⟩ := h.adds
    refine ⟨added, hadds, fun place hplace => ?_⟩
    obtain ⟨other, hmem, hother⟩ := hplaces place hplace
    exact ⟨other, hnames ▸ List.mem_append_left _ hmem, hother⟩

/-- On the machine that a run has left, another one comes to the same and leaves the machine as it
is; after a run that succeeded it has nothing to tell. -/
theorem createAll_again (root : Path) (locations : List Location) (s : BootState σ) (outside : τ)
    (log : List Event) (effects : List Effect) :
    let first := (createAll root locations).runOn s
    let again := (createAll root locations).runOn ⟨first.2.machine, outside, log, effects⟩
    again.1 = first.1 ∧ again.2.machine = first.2.machine ∧ again.2.outside = outside ∧
      (first.1 = .ok () ∧ again.2.log = log ∨
        ∃ path fault, first.1 = .error (.pinDir path fault)) := by
  intro first again
  have hagain : again = _ := congrArg (fun step : Boot τ Unit =>
    step.runOn ⟨first.2.machine, outside, log, effects⟩) (createAll_eq_forM root locations)
  obtain ⟨gs, _, h, hrun⟩ |
    ⟨before, pin, after, gs, fault, _, hnames, hpin, h, hfault, hfails, hrun⟩ :=
      runOn_createAll root locations s
  · have hleft : first.2.machine.files = gs := congrArg (·.2.machine.files) hrun
    have hfirst : first.1 = .ok () := congrArg Prod.fst hrun
    rw [hagain, runOn_of_occupied (by rw [hleft]; exact h.occupied), hfirst]
    exact ⟨rfl, rfl, rfl, .inl ⟨rfl, rfl⟩⟩
  · have hleft : first.2.machine.files = gs := congrArg (·.2.machine.files) hrun
    have hfirst : first.1 = .error (.pinDir (root.join (.ofString pin)) fault) :=
      congrArg Prod.fst hrun
    subst hleft
    obtain ⟨log', hlast⟩ := runOn_of_fails
      (s := (⟨first.2.machine, outside, log, effects⟩ : BootState τ))
      (makes_of_occupied h.occupied) hpin hfault hfails after
    rw [hagain, hnames, hlast, hfirst]
    exact ⟨rfl, machine_leftBy .., rfl, .inr ⟨_, fault, rfl⟩⟩

end Pin

end BpfBoot
