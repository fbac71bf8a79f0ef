import Mathlib
import BpfBoot.Proofs.PinDirectories
import BpfBoot.Proofs.Repeats

namespace BpfBoot

open FileSystem (Same LinkFree)

variable {σ α β : Type}

/-- A step of a collaborator that leaves the files and the mask alone. What it answers is told by
its arguments and by the files. -/
structure IsQuiet (answer : α → β) (step : StateM (Machine × σ) α) : Prop where
  answers : ∀ v w, v.1.files = w.1.files → answer (step v).1 = answer (step w).1
  files : ∀ w, (step w).2.1.files = w.1.files
  umask : ∀ w, (step w).2.1.umask = w.1.umask

structure Collaborators.AreQuiet (given : Collaborators σ) : Prop where
  loader : ∀ path location, IsQuiet Logged.value (given.loader path location)
  create : ∀ shape, IsQuiet id (given.maps.create shape)
  write : ∀ handle key value flags, IsQuiet id (given.maps.write handle key value flags)
  stall : ∀ seconds, IsQuiet id (given.stall seconds)

namespace Boot

/-- A step that leaves the files and the mask alone, and whose result depends on the files only. -/
def Reads (step : Boot σ α) : Prop :=
  ∀ s t, t.machine.files = s.machine.files →
    (step.runOn t).1 = (step.runOn s).1 ∧
      (step.runOn t).2.machine.files = t.machine.files ∧
      (step.runOn t).2.machine.umask = t.machine.umask

namespace Reads

theorem pure (a : α) : Reads (pure a : Boot σ α) := fun _ _ _ => ⟨rfl, rfl, rfl⟩

theorem throw (e : BootError) : Reads (throw e : Boot σ α) := fun _ _ _ => ⟨rfl, rfl, rfl⟩

theorem tell (e : Event) : Reads (tell e : Boot σ Unit) := fun _ _ _ => ⟨rfl, rfl, rfl⟩

theorem files : Reads (files : Boot σ FileSystem) :=
  fun _ _ h => ⟨congrArg Except.ok h, rfl, rfl⟩

theorem perform (effect : Effect) {step : StateM (Machine × σ) α} (h : IsQuiet id step) :
    Reads (perform effect step) := by
  intro s t hfiles
  exact ⟨congrArg Except.ok (h.answers _ _ hfiles), h.files _, h.umask _⟩

theorem perform_logged (effect : Effect) {step : StateM (Machine × σ) (Logged α)}
    (h : IsQuiet Logged.value step) : Reads (Boot.perform effect step >>= Boot.logged) := by
  intro s t hfiles
  simp only [runOn_bind, runOn_perform, runOn_logged]
  exact ⟨congrArg Except.ok (h.answers _ _ hfiles), h.files _, h.umask _⟩

theorem bind {a : Boot σ α} {f : α → Boot σ β} (ha : Reads a) (hf : ∀ x, Reads (f x)) :
    Reads (a >>= f) := by
  intro s t h
  obtain ⟨hresult, hfiles, humask⟩ := ha s t h
  obtain ⟨-, hfiles', -⟩ := ha s s rfl
  rw [runOn_bind, runOn_bind]
  rcases hs : a.runOn s with ⟨e | x, u⟩ <;> rcases ht : a.runOn t with ⟨e' | x', u'⟩ <;>
    rw [hs, ht] at hresult <;> rw [ht] at hfiles humask <;> rw [hs] at hfiles' <;> cases hresult
  · exact ⟨rfl, hfiles, humask⟩
  · obtain ⟨hresult, hkept, hkept'⟩ := hf x u u' (hfiles.trans (h.trans hfiles'.symm))
    exact ⟨hresult, hkept.trans hfiles, hkept'.trans humask⟩

theorem forM {f : α → Boot σ Unit} (h : ∀ x, Reads (f x)) (xs : List α) : Reads (xs.forM f) := by
  induction xs with
  | nil => exact pure ()
  | cons x xs ih => exact (h x).bind fun _ => ih

theorem foldlM {f : β → α → Boot σ β} (h : ∀ b x, Reads (f b x)) (xs : List α) (b : β) :
    Reads (xs.foldlM f b) := by
  induction xs generalizing b with
  | nil => exact pure b
  | cons x xs ih => exact (h b x).bind ih

end Reads

end Boot

namespace Load

variable {loader : Loader σ} {stall : Stall σ}

theorem reads_loadObject (h : ∀ path location, IsQuiet Logged.value (loader path location))
    (location : Location) (report : Report) (name : Path.Name) :
    Boot.Reads (loadObject loader location report name) := by
  unfold loadObject
  rw [← bind_assoc]
  refine .bind (.perform_logged _ (h _ _)) fun outcome => ?_
  split
  · exact .bind (.tell _) fun _ => .pure _
  · exact .bind (.tell _) fun _ => .pure _

theorem reads_loadLocation (h : ∀ path location, IsQuiet Logged.value (loader path location))
    (location : Location) : Boot.Reads (loadLocation loader location) := by
  refine .bind .files fun fs => ?_
  split
  · split
    · exact .bind (.tell _) fun _ => .pure _
    · exact .bind (.tell _) fun _ => .pure _
  · exact .foldlM (reads_loadObject h location) _ _

theorem reads_loadAll (h : ∀ path location, IsQuiet Logged.value (loader path location))
    (hstall : ∀ seconds, IsQuiet id (stall seconds)) (seconds : Nat) (locations : List Location) :
    Boot.Reads (loadAll loader stall seconds locations) := by
  induction locations with
  | nil => exact .pure ()
  | cons location rest ih =>
      refine .bind (reads_loadLocation h location) fun report => .bind (.tell _) fun _ => ?_
      split
      · exact ih
      · exact .bind (.forM (fun line => .tell _) _) fun _ =>
          .bind (.perform _ (hstall seconds)) fun _ => .throw _

end Load

theorem Sanity.reads_check {maps : MapPrimitives σ} (hcreate : ∀ shape, IsQuiet id (maps.create shape))
    (hwrite : ∀ handle key value flags, IsQuiet id (maps.write handle key value flags)) :
    Boot.Reads (check maps) := by
  have hattempt : Boot.Reads (attempt maps) := by
    refine .bind (.perform _ (hcreate shape)) fun created => ?_
    split
    · exact .pure _
    · exact .perform _ (hwrite _ key value 0)
  refine .bind hattempt fun result => ?_
  split
  · exact .tell _
  · exact .bind (.tell _) fun _ => .throw _

namespace Pipeline

section Rooted

def namesBelow (path : String) : List Path.Name := (Path.ofString path).belowRoot.names

def knobNames (knob : Knob) : List Path.Name :=
  namesBelow "/proc/sys" ++ (Path.ofString knob.path).names

def pinNames (pin : String) : List Path.Name :=
  namesBelow "/sys/fs/bpf" ++ (Path.ofString pin).names

def rootedPins : List String := Location.table.map Prod.snd ++ [Location.reservedPin]

/-- A path below a root that does not lead through a pin directory. -/
structure IsClear (root : String) (ys : List Path.Name) (q : Path) : Prop where
  below : (Path.ofString root).IsBelow ys q
  ends : q.endsInSlash = false
  pins : ∀ pin ∈ rootedPins, ¬pinNames pin <+: ys

theorem isBelow_join (root : String) {q : Path} (hq : q.isAbsolute = false)
    (hplain : ∀ name ∈ q.names, name ≠ Path.dot ∧ name ≠ Path.dotDot) :
    (Path.ofString root).IsBelow q.names ((Path.ofString root).join q) :=
  (Path.IsBelow.refl (.ofString root)).join hq hplain

theorem isBelow_pin (root : String) {pin : String} (h : pin ∈ rootedPins) :
    (Path.ofString root).IsBelow (pinNames pin)
      ((Config.rootedAt root).layout.pinRoot.join (.ofString pin)) := by
  have hpins : ∀ pin ∈ rootedPins, (Path.ofString pin).isAbsolute = false ∧
      ∀ name ∈ (Path.ofString pin).names, name ≠ Path.dot ∧ name ≠ Path.dotDot := by
    decide
  obtain ⟨hrelative, hplain⟩ := hpins pin h
  exact (isBelow_join root rfl (by decide)).join hrelative hplain

theorem isClear_knob (root : String) {knob : Knob} (h : knob ∈ Sysctl.knobs) :
    IsClear root (knobNames knob)
      ((Config.rootedAt root).layout.sysctlRoot.join (.ofString knob.path)) := by
  have hknobs : ∀ knob ∈ Sysctl.knobs, (Path.ofString knob.path).isAbsolute = false ∧
      (Path.ofString knob.path).bytes ≠ [] ∧ (Path.ofString knob.path).endsInSlash = false ∧
      (∀ name ∈ (Path.ofString knob.path).names, name ≠ Path.dot ∧ name ≠ Path.dotDot) ∧
      ∀ pin ∈ rootedPins, ¬pinNames pin <+: knobNames knob := by
    decide
  obtain ⟨hrelative, hbytes, hopen, hplain, hpins⟩ := hknobs knob h
  refine ⟨(isBelow_join root rfl (by decide)).join hrelative hplain, ?_, hpins⟩
  rw [Path.endsInSlash_join _ hrelative hbytes, hopen]

theorem isClear_legacyScript (root : String) :
    IsClear root (namesBelow "/system/etc/init/bpfloader.rc")
      (Config.rootedAt root).layout.legacyScript :=
  ⟨isBelow_join root rfl (by decide), Path.endsInSlash_join _ rfl (by decide), by decide⟩

theorem isClear_newScript (root : String) :
    IsClear root (namesBelow "/system/etc/init/netbpfload.rc")
      (Config.rootedAt root).layout.newScript :=
  ⟨isBelow_join root rfl (by decide), Path.endsInSlash_join _ rfl (by decide), by decide⟩

variable {root : String} {facts : Facts} {given : Collaborators σ} {argv0 : String}
  {s t : BootState σ} {ys : List Path.Name} {q : Path}

theorem linkFree_knobs (hfree : s.machine.files.LinkFree) :
    (knobs (Config.rootedAt root) facts s).2.machine.files.LinkFree :=
  hfree.grows (works_knobs _ facts s).files

theorem same_pins (facts : Facts) (hfree : s.machine.files.LinkFree) (hq : IsClear root ys q) :
    Same q (knobs (Config.rootedAt root) facts s).2.machine.files
      (pins (Config.rootedAt root) facts s).2.machine.files := by
  rw [pins, Pin.createAll_eq_forM]
  refine (Boot.Extends.forM (Pin.isWork_create _) fun pin hpin => ?_).same (linkFree_knobs hfree)
  have hnames : pinNames pin ≠ [] := by
    rw [pinNames]
    exact List.append_ne_nil_of_left_ne_nil (by decide) _
  exact Pin.extends_create (isBelow_pin root hpin) hq.below hq.ends hnames (hq.pins pin hpin)

theorem same_knobs (facts : Facts) (hfree : s.machine.files.LinkFree) (hq : IsClear root ys q)
    (hknobs : ∀ knob ∈ Sysctl.knobs, knobNames knob ≠ ys) :
    Same q s.machine.files (knobs (Config.rootedAt root) facts s).2.machine.files := by
  unfold knobs Sysctl.apply
  split
  · refine (Boot.Extends.forM (fun knob => Sysctl.isWork_applyKnob _ knob facts.kernel)
      fun knob hknob => ?_).same hfree
    have hclear := isClear_knob root hknob
    exact Sysctl.extends_applyKnob hclear.below hclear.ends hq.below hq.ends (hknobs knob hknob) _
  · exact .refl q _

theorem verdict_of_same {config : Config} {fs gs : FileSystem}
    (hlegacy : Same config.layout.legacyScript fs gs) (hnew : Same config.layout.newScript fs gs)
    (argv0 : String) : verdict config gs argv0 = verdict config fs argv0 := by
  have hprobe : InitScripts.probe gs config.layout = InitScripts.probe fs config.layout := by
    simp only [InitScripts.probe, InitScripts.present, hlegacy.holds, hnew.holds]
  rw [verdict, verdict, hprobe]

theorem verdict_knobs (root : String) (facts : Facts) (hfree : s.machine.files.LinkFree)
    (argv0 : String) :
    verdict (Config.rootedAt root) (knobs (Config.rootedAt root) facts s).2.machine.files argv0 =
      verdict (Config.rootedAt root) s.machine.files argv0 :=
  verdict_of_same (same_knobs facts hfree (isClear_legacyScript root) (by decide))
    (same_knobs facts hfree (isClear_newScript root) (by decide)) argv0

theorem verdict_pins (root : String) (facts : Facts) (hfree : s.machine.files.LinkFree)
    (argv0 : String) :
    verdict (Config.rootedAt root) (pins (Config.rootedAt root) facts s).2.machine.files argv0 =
      verdict (Config.rootedAt root) s.machine.files argv0 := by
  rw [← verdict_knobs root facts hfree]
  exact verdict_of_same (same_pins facts hfree (isClear_legacyScript root))
    (same_pins facts hfree (isClear_newScript root)) argv0

theorem repeats_knobs (root : String) (facts : Facts) :
    Boot.Repeats (fun fs gs => ∀ knob ∈ Sysctl.knobs,
        Same ((Config.rootedAt root).layout.sysctlRoot.join (.ofString knob.path)) fs gs)
      (Sysctl.apply (Config.rootedAt root).layout.sysctlRoot facts : Boot σ Unit) := by
  have hdistinct : (Sysctl.knobs.map knobNames).Nodup := by decide
  unfold Sysctl.apply
  split
  · refine .forM (fun _ => .refl _) (fun knob => Sysctl.isWork_applyKnob _ knob facts.kernel)
      (fun knob => Sysctl.writeLimit_applyKnob _ knob facts.kernel)
      (fun knob _ => Sysctl.repeats_applyKnob _ knob facts.kernel) ?_
    refine (List.pairwise_map.1 hdistinct).imp_of_mem fun {first later} hfirst hlater hne => ?_
    have hclear := isClear_knob root hlater
    have hwritten := isClear_knob root hfirst
    exact Sysctl.extends_applyKnob hclear.below hclear.ends hwritten.below hwritten.ends hne.symm _
  · exact fun s t _ _ _ => ⟨rfl, rfl⟩

theorem writeLimit_knobs (config : Config) (facts : Facts) (s : BootState σ) :
    (knobs config facts s).2.machine.writeLimit = s.machine.writeLimit := by
  unfold knobs Sysctl.apply
  split
  · exact Boot.writeLimit_forM (fun knob => Sysctl.writeLimit_applyKnob _ knob facts.kernel) _ s
  · rfl

theorem knobs_again (hfree : s.machine.files.LinkFree)
    (hlimit : t.machine.writeLimit = s.machine.writeLimit)
    (hfiles : t.machine.files = (knobs (Config.rootedAt root) facts s).2.machine.files ∨
      (knobs (Config.rootedAt root) facts s).1 = .ok () ∧
        t.machine.files = (pins (Config.rootedAt root) facts s).2.machine.files) :
    (knobs (Config.rootedAt root) facts t).1 = (knobs (Config.rootedAt root) facts s).1 ∧
      (knobs (Config.rootedAt root) facts t).2.machine = t.machine := by
  apply repeats_knobs root facts s t hfree hlimit
  change Boot.Followed _ (knobs (Config.rootedAt root) facts s) t.machine.files
  rcases hfiles with hfiles | ⟨hok, hfiles⟩
  · rcases hrun : knobs (Config.rootedAt root) facts s with ⟨e | ⟨⟩, u⟩ <;> rw [hrun] at hfiles
    · exact hfiles
    · intro knob _
      rw [hfiles]
      exact .refl _ _
  · have hsame (knob : Knob) (hknob : knob ∈ Sysctl.knobs) :=
      same_pins facts hfree (isClear_knob root hknob)
    rw [← hfiles] at hsame
    rcases hrun : knobs (Config.rootedAt root) facts s with ⟨e | ⟨⟩, u⟩ <;> rw [hrun] at hok hsame
    · cases hok
    · exact hsame

theorem pins_again (hfree : s.machine.files.LinkFree)
    (hlimit : t.machine.writeLimit = s.machine.writeLimit)
    (hknobs : (knobs (Config.rootedAt root) facts t).2.machine = t.machine)
    (hfiles : t.machine.files = (pins (Config.rootedAt root) facts s).2.machine.files) :
    (pins (Config.rootedAt root) facts t).1 = (pins (Config.rootedAt root) facts s).1 ∧
      (pins (Config.rootedAt root) facts t).2.machine = t.machine := by
  rw [← hknobs]
  apply Pin.repeats_createAll _ _ _ _ (linkFree_knobs hfree)
  · rw [hknobs, hlimit, writeLimit_knobs]
  · rw [hknobs, hfiles]
    change Boot.Followed _ (pins (Config.rootedAt root) facts s) _
    rcases pins (Config.rootedAt root) facts s with ⟨e | ⟨⟩, u⟩
    · rfl
    · exact .refl _

end Rooted

variable {config : Config} {facts : Facts} {given : Collaborators σ} {argv0 : String}
  {s t : BootState σ}

/-- The second of two ends of runs is in the first one's result, with the files and the mask that
its run has begun with. -/
structure Retraces (t : BootState σ) (x y : Except BootError α × BootState σ) : Prop where
  result : y.1 = x.1
  files : y.2.machine.files = t.machine.files
  umask : y.2.machine.umask = t.machine.umask

theorem Retraces.of_machine {x y : Except BootError α × BootState σ}
    (h : y.1 = x.1 ∧ y.2.machine = t.machine) : Retraces t x y :=
  ⟨h.1, congrArg Machine.files h.2, congrArg Machine.umask h.2⟩

theorem Retraces.unlessFailed {x y : Except BootError Unit × BootState σ}
    {next next' : Except BootError Target × BootState σ} (h : Retraces t x y)
    (hnext : x.1 = .ok () → Retraces t next next') :
    Retraces t (unlessFailed x next) (unlessFailed y next') := by
  rcases hx : x.1 with e | ⟨⟩
  · rw [unlessFailed_of_error hx, unlessFailed_of_error (h.result.trans hx)]
    exact ⟨rfl, h.files, h.umask⟩
  · rw [unlessFailed_of_ok hx, unlessFailed_of_ok (h.result.trans hx)]
    exact hnext hx

section Sweeps

variable (hquiet : given.AreQuiet)
  (hfiles : (pins config facts t).2.machine.files = (pins config facts s).2.machine.files)

include hquiet hfiles

theorem retraces_sweep :
    Retraces (pins config facts t).2 (sweep config facts given s) (sweep config facts given t) := by
  obtain ⟨hresult, hkept, hmask⟩ :=
    Load.reads_loadAll hquiet.loader hquiet.stall config.stall config.locations _ _ hfiles
  exact ⟨hresult, hkept, hmask⟩

theorem retraces_maps :
    Retraces (pins config facts t).2 (maps config facts given s) (maps config facts given t) := by
  have hs := retraces_sweep hquiet (Eq.refl (pins config facts s).2.machine.files)
  have ht := retraces_sweep hquiet hfiles
  obtain ⟨hresult, hkept, hmask⟩ := Sanity.reads_check hquiet.create hquiet.write _ _
    (ht.files.trans (hfiles.trans hs.files.symm))
  exact ⟨hresult, hkept.trans ht.files, hmask.trans ht.umask⟩

end Sweeps

theorem files_conclusionFromPins (hquiet : given.AreQuiet) (config : Config) (facts : Facts)
    (s : BootState σ) :
    (conclusionFromPins config facts given s).2.machine.files =
      (pins config facts s).2.machine.files := by
  have hsame := Eq.refl (pins config facts s).2.machine.files
  have hmaps := (retraces_maps hquiet hsame).files
  rw [conclusionFromPins]
  rcases hpins : (pins config facts s).1 with e | ⟨⟩
  · rw [unlessFailed_of_error hpins]
  rw [unlessFailed_of_ok hpins]
  rcases hsweep : (sweep config facts given s).1 with e | ⟨⟩
  · rw [unlessFailed_of_error hsweep]
    exact (retraces_sweep hquiet hsame).files
  rw [unlessFailed_of_ok hsweep]
  rcases hend : (maps config facts given s).1 with e | ⟨⟩
  · rwa [unlessFailed_of_error hend]
  · rwa [unlessFailed_of_ok hend]

theorem retraces_conclusionFromPins (hquiet : given.AreQuiet)
    (hpins : (pins config facts t).1 = (pins config facts s).1 ∧
      (pins config facts t).2.machine = t.machine)
    (hfiles : t.machine.files = (pins config facts s).2.machine.files) :
    Retraces t (conclusionFromPins config facts given s) (conclusionFromPins config facts given t) := by
  have hstart := (congrArg Machine.files hpins.2).trans hfiles
  have hfrom {x y : Except BootError Unit × BootState σ}
      (h : Retraces (pins config facts t).2 x y) : Retraces t x y :=
    ⟨h.result, by rw [h.files, hpins.2], by rw [h.umask, hpins.2]⟩
  have hmaps := hfrom (retraces_maps hquiet hstart)
  refine (Retraces.of_machine hpins).unlessFailed fun _ => ?_
  refine (hfrom (retraces_sweep hquiet hstart)).unlessFailed fun _ => ?_
  exact hmaps.unlessFailed fun _ => ⟨rfl, hmaps.files, hmaps.umask⟩

/-- On the files that a run has left, and with the same limit on writes, a run comes to the same and
leaves the files and the mask alone. -/
theorem retraces_conclusion {root : String} (hquiet : given.AreQuiet)
    (hfree : s.machine.files.LinkFree) (hlimit : t.machine.writeLimit = s.machine.writeLimit)
    (hfiles : t.machine.files =
      (conclusion (Config.rootedAt root) facts given argv0 s).2.machine.files) :
    Retraces t (conclusion (Config.rootedAt root) facts given argv0 s)
      (conclusion (Config.rootedAt root) facts given argv0 t) := by
  rcases hverdict : verdict (Config.rootedAt root) s.machine.files argv0 with e | _ | next
  · rw [conclusion, hverdict] at hfiles ⊢
    rw [conclusion, hfiles, hverdict]
    exact ⟨rfl, rfl, rfl⟩
  · have hgated : Retraces t (gated facts s) (gated facts t) := ⟨rfl, rfl, rfl⟩
    rw [conclusion_of_ready hverdict] at hfiles ⊢
    rcases hgate : (gated facts s).1 with e | ⟨⟩
    · rw [unlessFailed_of_error hgate] at hfiles
      have hsame : t.machine.files = s.machine.files := hfiles
      rw [conclusion_of_ready (by rw [hsame, hverdict])]
      refine hgated.unlessFailed fun hok => ?_
      cases hgate.symm.trans hok
    rw [unlessFailed_of_ok hgate] at hfiles
    -- What the first run has left is what its knobs or else its pin directories have left.
    rcases hknobs : (knobs (Config.rootedAt root) facts s).1 with e | ⟨⟩
    · rw [unlessFailed_of_error hknobs] at hfiles
      have hagain := knobs_again hfree hlimit (.inl hfiles)
      have hverdict' := verdict_knobs root facts hfree argv0
      rw [← hfiles, hverdict] at hverdict'
      rw [conclusion_of_ready hverdict']
      refine hgated.unlessFailed fun _ => (Retraces.of_machine hagain).unlessFailed fun hok => ?_
      cases hknobs.symm.trans hok
    · rw [unlessFailed_of_ok hknobs, files_conclusionFromPins hquiet] at hfiles
      have hagain := knobs_again hfree hlimit (.inr ⟨hknobs, hfiles⟩)
      have hverdict' := verdict_pins root facts hfree argv0
      rw [← hfiles, hverdict] at hverdict'
      rw [conclusion_of_ready hverdict']
      refine hgated.unlessFailed fun _ => (Retraces.of_machine hagain).unlessFailed fun _ => ?_
      exact retraces_conclusionFromPins hquiet (pins_again hfree hlimit hagain.2 hfiles) hfiles
  · rw [conclusion, hverdict] at hfiles ⊢
    rw [conclusion, hfiles, hverdict]
    exact ⟨rfl, rfl, rfl⟩

theorem run_of_files (root : String) (facts : Facts) (argv0 : String) {m n : Machine}
    (hquiet : given.AreQuiet) (hfree : m.files.LinkFree) (hlimit : n.writeLimit = m.writeLimit)
    (o o' : σ)
    (hfiles : n.files =
      (run (Config.rootedAt root) facts given argv0 (.start m o)).2.machine.files) :
    (run (Config.rootedAt root) facts given argv0 (.start n o')).1 =
        (run (Config.rootedAt root) facts given argv0 (.start m o)).1 ∧
      (run (Config.rootedAt root) facts given argv0 (.start n o')).2.machine.files = n.files ∧
      (run (Config.rootedAt root) facts given argv0 (.start n o')).2.machine.umask = n.umask := by
  obtain ⟨hs, hmachine⟩ := run_eq_conclusion (Config.rootedAt root) facts given argv0 (.start m o)
  obtain ⟨ht, hmachine'⟩ :=
    run_eq_conclusion (Config.rootedAt root) facts given argv0 (.start n o')
  rw [hmachine] at hfiles
  have hagain := retraces_conclusion (s := .start m o) (t := .start n o') hquiet hfree hlimit hfiles
  rw [hs, ht, hmachine', outcome_congr hagain.result]
  exact ⟨rfl, hagain.files, hagain.umask⟩

def leftBy (machine other : Machine) : Machine :=
  { machine with files := other.files, umask := other.umask }

theorem files_leftBy (machine other : Machine) : (leftBy machine other).files = other.files := rfl

theorem writeLimit_leftBy (machine other : Machine) :
    (leftBy machine other).writeLimit = machine.writeLimit := rfl

theorem umask_leftBy (machine other : Machine) : (leftBy machine other).umask = other.umask := rfl

/-- A run on the files and the mask that a run has left has the same outcome, and leaves them all as
they are. -/
theorem run_again (root : String) (facts : Facts) {given : Collaborators σ}
    (hquiet : given.AreQuiet) (argv0 : String) {machine : Machine}
    (hfree : machine.files.LinkFree) (outside again : σ) :
    let first := run (Config.rootedAt root) facts given argv0 (.start machine outside)
    let second := run (Config.rootedAt root) facts given argv0
      (.start (leftBy machine first.2.machine) again)
    second.1 = first.1 ∧ second.2.machine.files = first.2.machine.files ∧
      second.2.machine.umask = first.2.machine.umask := by
  have hagain := run_of_files root facts argv0 hquiet hfree (writeLimit_leftBy machine _) outside again
    (files_leftBy machine _)
  rwa [files_leftBy, umask_leftBy] at hagain

theorem areQuiet_willing : willing.AreQuiet := by
  constructor
  · exact fun path location => ⟨fun _ _ _ => rfl, fun _ => rfl, fun _ => rfl⟩
  · exact fun shape => ⟨fun _ _ _ => rfl, fun _ => rfl, fun _ => rfl⟩
  · exact fun handle key value flags => ⟨fun _ _ _ => rfl, fun _ => rfl, fun _ => rfl⟩
  · exact fun seconds => ⟨fun _ _ _ => rfl, fun _ => rfl, fun _ => rfl⟩

def untuned : Machine where
  files := ((FileSystem.empty.plant (.ofString "r/system/etc/init/netbpfload.rc") (.file [] none)).plant
    (.ofString "r/proc/sys/kernel/unprivileged_bpf_disabled") (.file [0x32, 0x0A, 0x0A] none)).plant
    (.ofString "r/proc/sys/net/core/bpf_jit_enable") (.file [] none)
  umask := 0o022

def laterFacts : Facts := { settledFacts with api := 35 }

theorem run_again_untuned :
    let first := run (Config.rootedAt "r") laterFacts willing
      "r/apex/com.android.tethering/bin/netbpfload" (.start untuned ())
    let second := run (Config.rootedAt "r") laterFacts willing
      "r/apex/com.android.tethering/bin/netbpfload" (.start (leftBy untuned first.2.machine) ())
    (first.1 = .exit 1 ∧ first.2.machine.files ≠ untuned.files) ∧
      second.1 = first.1 ∧ second.2.machine.files = first.2.machine.files ∧
      second.2.machine.umask = first.2.machine.umask := by
  have hfree : untuned.files.LinkFree := by
    apply FileSystem.LinkFree.of_nodes
    decide +kernel
  refine ⟨?_, run_again "r" laterFacts areQuiet_willing
    "r/apex/com.android.tethering/bin/netbpfload" hfree () ()⟩
  decide +kernel

end Pipeline

end BpfBoot
