import BpfBoot.Pin
import BpfBoot.Proofs.Growth
import BpfBoot.Proofs.Steps
import BpfBoot.Sanity
import BpfBoot.Sysctl

namespace BpfBoot

open FileSystem (Provides)

variable {σ τ : Type}

def Effect.rank : Effect → Nat
  | .writeKnob _ => 0
  | .makeDirectory _ => 1
  | .load .. => 2
  | .stall _ | .createMap => 3
  | .writeMap => 4

/-- No collaborator was called, the files have grown at most, and all effects were of one rank. -/
structure BootState.Works (rank : Nat) (s t : BootState σ) : Prop where
  outside : t.outside = s.outside
  files : s.machine.files.Grows t.machine.files
  effects : ∃ done, t.effects = s.effects ++ done ∧ ∀ e ∈ done, e.rank = rank

namespace BootState.Works

variable {rank : Nat} {s t u : BootState σ}

theorem refl (s : BootState σ) : s.Works rank s := ⟨rfl, .refl _, [], by simp⟩

theorem trans (h : s.Works rank t) (h' : t.Works rank u) : s.Works rank u := by
  obtain ⟨before, hbefore, hb⟩ := h.effects
  obtain ⟨after, hafter, ha⟩ := h'.effects
  refine ⟨h'.outside.trans h.outside, h.files.trans h'.files, before ++ after, ?_, ?_⟩
  · rw [hafter, hbefore, List.append_assoc]
  · exact fun e he => (List.mem_append.1 he).elim (hb e) (ha e)

end BootState.Works

/-- A step that works on the files alone and that fails, if it does, as most failures do. -/
def Boot.IsWork (rank : Nat) (step : Boot σ Unit) : Prop :=
  ∀ s, s.Works rank (step.runOn s).2 ∧ ∀ e, (step.runOn s).1 = .error e → e.exitCode = 1

namespace Boot.IsWork

variable {rank : Nat}

theorem pure : IsWork rank (pure () : Boot σ Unit) := fun s => ⟨.refl s, fun _ he => nomatch he⟩

theorem bind {a : Boot σ Unit} {f : Unit → Boot σ Unit} (ha : IsWork rank a)
    (hf : ∀ x, IsWork rank (f x)) : IsWork rank (a >>= f) := by
  intro s
  obtain ⟨hstep, hbad⟩ := ha s
  rw [runOn_bind]
  rcases h : a.runOn s with ⟨_ | x, t⟩ <;> rw [h] at hstep hbad
  · exact ⟨hstep, hbad⟩
  · exact ⟨hstep.trans (hf x t).1, (hf x t).2⟩

theorem forM {α : Type} {f : α → Boot σ Unit} (h : ∀ x, IsWork rank (f x)) (xs : List α) :
    IsWork rank (xs.forM f) := by
  induction xs with
  | nil => exact pure
  | cons x xs ih => exact (h x).bind fun _ => ih

end Boot.IsWork

namespace Sysctl

theorem isWork_applyKnob (root : Path) (knob : Knob) (kernel : Version) :
    Boot.IsWork 0 (applyKnob root knob kernel : Boot σ Unit) := by
  intro s
  have hworks (log : List Event) : s.Works 0
      { s with
        machine := (write (root.join (.ofString knob.path)) knob.value s.machine).2
        effects := s.effects ++ [.writeKnob (root.join (.ofString knob.path))]
        log } :=
    ⟨rfl, FileSystem.grows_overwrite .., _, rfl, by simp [Effect.rank]⟩
  simp only [applyKnob, Boot.runOn_bind, Boot.runOn_perform, Boot.onMachine_apply]
  split
  · exact ⟨hworks _, fun _ he => nomatch he⟩
  · split
    · refine ⟨hworks _, fun e he => ?_⟩
      cases he
      rfl
    · exact ⟨hworks _, fun _ he => nomatch he⟩

theorem isWork_apply (root : Path) (facts : Facts) : Boot.IsWork 0 (apply root facts : Boot σ Unit) := by
  unfold apply
  split
  · exact .forM (fun knob => isWork_applyKnob root knob facts.kernel) knobs
  · exact .pure

theorem simulates_apply (rel : σ → τ → Prop) (root : Path) (facts : Facts) :
    Boot.Simulates rel (apply root facts) (apply root facts) := by
  have hknob (knob : Knob) : Boot.Simulates rel (applyKnob root knob facts.kernel)
      (applyKnob root knob facts.kernel) := by
    unfold applyKnob
    refine .bind (.perform _ (matches_onMachine _)) fun result => ?_
    split
    · exact .tell _
    · split
      · exact .bind (.tell _) fun _ => .throw _
      · exact .tell _
  unfold apply
  split
  · exact .forM hknob knobs
  · exact .pure ()

end Sysctl

namespace Pin

theorem runOn_create_empty (root : Path) (s : BootState σ) :
    (create root "").runOn s = (.ok (), s) := rfl

theorem runOn_create {pin : String} (hpin : pin ≠ "") (root : Path) (s : BootState σ) :
    ∃ log, (create root pin).runOn s =
      (match (s.machine.files.makeDirectory 0 mode (root.join (.ofString pin))).1 with
        | .ok () => .ok ()
        | .error fault =>
          if fault = .os .alreadyExists then .ok ()
          else .error (.pinDir (root.join (.ofString pin)) fault),
        { s with
          machine.files := (s.machine.files.makeDirectory 0 mode (root.join (.ofString pin))).2
          effects := s.effects ++ [.makeDirectory (root.join (.ofString pin))]
          log }) := by
  have hempty : pin.isEmpty = false := by simpa using hpin
  simp only [create, hempty, Bool.false_eq_true, if_false, Boot.runOn_bind, Boot.runOn_perform,
    Boot.onMachine_apply, makeDirectory]
  rcases (s.machine.files.makeDirectory 0 mode (root.join (.ofString pin))).1 with fault | ⟨⟩
  · by_cases hexists : fault = .os .alreadyExists
    · exact ⟨s.log, by simp [hexists]⟩
    · simp only [hexists, if_false]
      exact ⟨_, rfl⟩
  · exact ⟨_, rfl⟩

theorem isWork_create (root : Path) (pin : String) :
    Boot.IsWork 1 (create root pin : Boot σ Unit) := by
  intro s
  by_cases hpin : pin = ""
  · rw [hpin, runOn_create_empty]
    exact ⟨.refl s, fun _ he => nomatch he⟩
  · obtain ⟨log, h⟩ := runOn_create hpin root s
    rw [h]
    refine ⟨⟨rfl, FileSystem.grows_makeDirectory .., _, rfl, by simp [Effect.rank]⟩, fun e he => ?_⟩
    split at he
    · cases he
    · split at he <;> cases he
      rfl

theorem simulates_create (rel : σ → τ → Prop) (root : Path) (pin : String) :
    Boot.Simulates rel (create root pin) (create root pin) := by
  unfold create
  split
  · exact .pure ()
  refine .bind (.perform _ (matches_onMachine _)) fun result => ?_
  split
  · exact .tell _
  · split
    · exact .pure ()
    · exact .bind (.tell _) fun _ => .throw _

theorem provides_create {before : FileSystem} {root : Path} {pin : String} {s : BootState σ}
    (hbefore : before.Grows s.machine.files) (hok : ((create root pin).runOn s).1 = .ok ())
    (hpin : pin ≠ "") :
    Provides before ((create root pin).runOn s).2.machine.files (root.join (.ofString pin)) := by
  obtain ⟨log, h⟩ := runOn_create hpin root s
  rw [h] at hok ⊢
  dsimp only at hok ⊢
  generalize root.join (.ofString pin) = path at hok ⊢
  split at hok
  · next hmade => exact .inl ⟨_, FileSystem.look_of_makeDirectory hmade⟩
  · next fault hfault =>
    split at hok
    · next hexists =>
      subst hexists
      obtain ⟨hsame, hoccupied⟩ := FileSystem.occupied_of_makeDirectory hfault
      rw [hsame]
      exact .of_occupied hbefore hoccupied
    · cases hok

def names (locations : List Location) : List String :=
  locations.map Location.pin ++ [Location.reservedPin]

theorem createAll_eq_forM (root : Path) (locations : List Location) :
    (createAll root locations : Boot σ Unit) = (names locations).forM (create root) := by
  simp only [createAll, names, List.forM_eq_forM, List.forM_append, List.forM_map, List.forM_cons,
    List.forM_nil, bind_pure_unit]

theorem isWork_createAll (root : Path) (locations : List Location) :
    Boot.IsWork 1 (createAll root locations : Boot σ Unit) := by
  rw [createAll_eq_forM]
  exact .forM (isWork_create root) _

theorem simulates_createAll (rel : σ → τ → Prop) (root : Path) (locations : List Location) :
    Boot.Simulates rel (createAll root locations) (createAll root locations) := by
  rw [createAll_eq_forM, createAll_eq_forM]
  exact .forM (simulates_create rel root) _

theorem provides_forM {before : FileSystem} {root : Path} {pins : List String} {s : BootState σ}
    (hbefore : before.Grows s.machine.files) (hok : ((pins.forM (create root)).runOn s).1 = .ok ())
    {pin : String} (hmem : pin ∈ pins) (hpin : pin ≠ "") :
    Provides before ((pins.forM (create root)).runOn s).2.machine.files
      (root.join (.ofString pin)) := by
  induction pins generalizing s with
  | nil => cases hmem
  | cons first rest ih =>
      have hrun : ((first :: rest).forM (create root)).runOn s =
          (create root first >>= fun _ => rest.forM (create root)).runOn s := rfl
      rw [hrun, Boot.runOn_bind] at hok ⊢
      have hwork := (isWork_create root first s).1.files
      have hfirst (hok : ((create root first).runOn s).1 = .ok ()) (hpin : first ≠ "") :=
        provides_create hbefore hok hpin
      rcases hcreate : (create root first).runOn s with ⟨_ | ⟨⟩, t⟩ <;>
        rw [hcreate] at hok hwork hfirst
      · cases hok
      rcases List.mem_cons.1 hmem with rfl | hmem
      · exact (hfirst rfl hpin).grows (Boot.IsWork.forM (isWork_create root) rest t).1.files
      · exact ih (hbefore.trans hwork) hok hmem

end Pin

/-- Primitives that do the same and give the same answers, but for how they name maps. -/
def MapPrimitives.Matches (rel : σ → τ → Prop) (a : MapPrimitives σ) (b : MapPrimitives τ) : Prop :=
  ∃ rename : a.Handle → b.Handle,
    (∀ shape, BpfBoot.Matches rel (Except.map rename <$> a.create shape) (b.create shape)) ∧
      ∀ handle key value flags,
        BpfBoot.Matches rel (a.write handle key value flags) (b.write (rename handle) key value flags)

theorem map_map_id {α : Type} (step : StateM (Machine × σ) (Except IoFault α)) :
    Except.map id <$> step = step := by
  have hid : (Except.map id : Except IoFault α → _) = id := by
    funext answer
    cases answer <;> rfl
  rw [hid, id_map]

theorem MapPrimitives.Matches.refl (maps : MapPrimitives σ) : maps.Matches Eq maps := by
  refine ⟨id, fun shape => ?_, fun handle key value flags => .refl _⟩
  rw [map_map_id]
  exact .refl _

namespace Sanity

theorem runOn_attempt_of_error {maps : MapPrimitives σ} {s : BootState σ} {fault : IoFault}
    {w : Machine × σ} (h : maps.create shape (s.machine, s.outside) = (.error fault, w)) :
    (attempt maps).runOn s =
      (.ok (.error fault), ⟨w.1, w.2, s.log, s.effects ++ [.createMap]⟩) := by
  simp [attempt, Boot.runOn_bind, h]

theorem runOn_attempt_of_ok {maps : MapPrimitives σ} {s : BootState σ} {handle : maps.Handle}
    {w : Machine × σ} (h : maps.create shape (s.machine, s.outside) = (.ok handle, w)) :
    (attempt maps).runOn s =
      (.ok (maps.write handle key value 0 w).1,
        ⟨(maps.write handle key value 0 w).2.1, (maps.write handle key value 0 w).2.2, s.log,
          s.effects ++ [.createMap, .writeMap]⟩) := by
  simp [attempt, Boot.runOn_bind, h]

theorem runOn_check (maps : MapPrimitives σ) (s : BootState σ) :
    (∃ fault m o log, maps.create shape (s.machine, s.outside) = (.error fault, m, o) ∧
        (check maps).runOn s =
          (.error (.sanity (failureText fault)), ⟨m, o, log, s.effects ++ [.createMap]⟩)) ∨
      ∃ handle w written m o log,
        maps.create shape (s.machine, s.outside) = (.ok handle, w) ∧
          maps.write handle key value 0 w = (written, m, o) ∧
          (check maps).runOn s =
            (written.mapError fun fault => .sanity (failureText fault),
              ⟨m, o, log, s.effects ++ [.createMap, .writeMap]⟩) := by
  rw [check, Boot.runOn_bind]
  rcases hcreate : maps.create shape (s.machine, s.outside) with ⟨fault | handle, w⟩
  · rw [runOn_attempt_of_error hcreate]
    exact .inl ⟨fault, w.1, w.2, _, rfl, rfl⟩
  · rw [runOn_attempt_of_ok hcreate]
    rcases hwrite : maps.write handle key value 0 w with ⟨fault | ⟨⟩, m, o⟩ <;>
      exact .inr ⟨handle, w, _, m, o, _, rfl, hwrite, rfl⟩

theorem simulates_attempt {rel : σ → τ → Prop} {a : MapPrimitives σ} {b : MapPrimitives τ}
    (h : a.Matches rel b) : Boot.Simulates rel (attempt a) (attempt b) := by
  obtain ⟨rename, hcreates, hwrites⟩ := h
  intro s t hst
  have hcreate := hcreates shape t.machine s.outside t.outside hst.outside
  rcases ha : a.create shape (s.machine, s.outside) with ⟨answer, m, o⟩
  rcases hb : b.create shape (t.machine, t.outside) with ⟨answer', m', p⟩
  have hmap : (Except.map rename <$> a.create shape) (t.machine, s.outside) =
      (answer.map rename, m, o) := by
    rw [← hst.machine]
    change ((a.create shape (s.machine, s.outside)).1.map rename,
      (a.create shape (s.machine, s.outside)).2) = _
    rw [ha]
  rw [hmap, hb] at hcreate
  obtain ⟨rfl, rfl, houtside⟩ : answer.map rename = answer' ∧ m = m' ∧ rel o p := hcreate
  cases answer with
  | error fault =>
      rw [runOn_attempt_of_error ha, runOn_attempt_of_error hb, hst.effects]
      exact ⟨rfl, rfl, houtside, rfl⟩
  | ok handle =>
      obtain ⟨hwritten, hmachine, hafter⟩ := hwrites handle key value 0 m o p houtside
      rw [runOn_attempt_of_ok ha, runOn_attempt_of_ok hb, hst.effects]
      exact ⟨congrArg Except.ok hwritten, hmachine, hafter, rfl⟩

theorem simulates_check {rel : σ → τ → Prop} {a : MapPrimitives σ} {b : MapPrimitives τ}
    (h : a.Matches rel b) : Boot.Simulates rel (check a) (check b) := by
  unfold check
  refine .bind (simulates_attempt h) fun result => ?_
  split
  · exact .tell _
  · exact .bind (.tell _) fun _ => .throw _

end Sanity

end BpfBoot
