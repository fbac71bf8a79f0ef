import Mathlib
import BpfBoot.Proofs.Below
import BpfBoot.Proofs.Stages

namespace BpfBoot

open FileSystem (Same LinkFree)

variable {σ α : Type} {rank : Nat}

namespace Boot

/-- What comes from the files that a step leaves comes from those that it was run on. -/
def Extends (rel : FileSystem → FileSystem → Prop) (step : Boot σ Unit) : Prop :=
  ∀ s gs, s.machine.files.LinkFree → rel (step.runOn s).2.machine.files gs → rel s.machine.files gs

/-- The files from which a run goes on that `rel` lets come from those that a step left; a failed
step is the last one. -/
def Followed (rel : FileSystem → FileSystem → Prop) :
    Except BootError Unit × BootState σ → FileSystem → Prop
  | (.ok (), s), gs => rel s.machine.files gs
  | (.error _, s), gs => gs = s.machine.files

/-- Run again on the files that followed, a step comes to the same and changes nothing. -/
def Repeats (rel : FileSystem → FileSystem → Prop) (step : Boot σ Unit) : Prop :=
  ∀ s t : BootState σ, s.machine.files.LinkFree → t.machine.writeLimit = s.machine.writeLimit →
    Followed rel (step.runOn s) t.machine.files →
      (step.runOn t).1 = (step.runOn s).1 ∧ (step.runOn t).2.machine = t.machine

section Loops

variable {f : α → Boot σ Unit} {xs : List α}

theorem runOn_forM_of_ok {x : α} {s t : BootState σ} (h : (f x).runOn s = (.ok (), t))
    (xs : List α) : ((x :: xs).forM f).runOn s = (xs.forM f).runOn t := by
  rw [List.forM_eq_forM, List.forM_cons, runOn_bind, h]

theorem runOn_forM_of_error {x : α} {s t : BootState σ} {e : BootError}
    (h : (f x).runOn s = (.error e, t)) (xs : List α) :
    ((x :: xs).forM f).runOn s = (.error e, t) := by
  rw [List.forM_eq_forM, List.forM_cons, runOn_bind, h]

theorem IsWork.linkFree {step : Boot σ Unit} (h : IsWork rank step) {s : BootState σ}
    (hfree : s.machine.files.LinkFree) : (step.runOn s).2.machine.files.LinkFree :=
  hfree.grows (h s).1.files

theorem Extends.forM {rel : FileSystem → FileSystem → Prop} (hwork : ∀ x, IsWork rank (f x))
    (h : ∀ x ∈ xs, Extends rel (f x)) : Extends rel (xs.forM f) := by
  intro s gs hfree hrel
  induction xs generalizing s with
  | nil => exact hrel
  | cons x xs ih =>
      obtain ⟨hx, hxs⟩ := List.forall_mem_cons.1 h
      have hleft := (hwork x).linkFree hfree
      apply hx s gs hfree
      rcases hrun : (f x).runOn s with ⟨e | ⟨⟩, t⟩
      · rwa [runOn_forM_of_error hrun] at hrel
      · rw [runOn_forM_of_ok hrun] at hrel
        rw [hrun] at hleft
        exact ih hxs t hleft hrel

theorem Followed.related {rel : FileSystem → FileSystem → Prop} (hrefl : ∀ fs, rel fs fs)
    {ended : Except BootError Unit × BootState σ} {gs : FileSystem}
    (hfollowed : Followed rel ended gs) : rel ended.2.machine.files gs := by
  rcases ended with ⟨e | ⟨⟩, t⟩
  · rw [show gs = t.machine.files from hfollowed]
    exact hrefl t.machine.files
  · exact hfollowed

theorem Followed.back {rel : FileSystem → FileSystem → Prop} (hrefl : ∀ fs, rel fs fs)
    {step : Boot σ Unit} (h : Extends rel step) {s : BootState σ} {gs : FileSystem}
    (hfree : s.machine.files.LinkFree) (hfollowed : Followed rel (step.runOn s) gs) :
    rel s.machine.files gs :=
  h s gs hfree (hfollowed.related hrefl)

theorem Followed.mono {rel rel' : FileSystem → FileSystem → Prop}
    (h : ∀ fs gs, rel fs gs → rel' fs gs) {ended : Except BootError Unit × BootState σ}
    {gs : FileSystem} (hfollowed : Followed rel ended gs) : Followed rel' ended gs := by
  rcases ended with ⟨e | ⟨⟩, t⟩
  · exact hfollowed
  · exact h t.machine.files gs hfollowed

theorem writeLimit_forM
    (h : ∀ x s, ((f x).runOn s).2.machine.writeLimit = s.machine.writeLimit) (xs : List α)
    (s : BootState σ) : ((xs.forM f).runOn s).2.machine.writeLimit = s.machine.writeLimit := by
  induction xs generalizing s with
  | nil => rfl
  | cons x xs ih =>
      have hx := h x s
      rcases hrun : (f x).runOn s with ⟨e | ⟨⟩, t⟩ <;> rw [hrun] at hx
      · rwa [runOn_forM_of_error hrun]
      · rw [runOn_forM_of_ok hrun, ih t, hx]

/-- In a loop each step repeats if none of those after it undoes what it needs. -/
theorem Repeats.forM {rel : α → FileSystem → FileSystem → Prop} (hrefl : ∀ x fs, rel x fs fs)
    (hwork : ∀ x, IsWork rank (f x))
    (hlimit : ∀ x s, ((f x).runOn s).2.machine.writeLimit = s.machine.writeLimit)
    (hrepeats : ∀ x ∈ xs, Repeats (rel x) (f x))
    (hextends : xs.Pairwise fun x y => Extends (rel x) (f y)) :
    Repeats (fun fs gs => ∀ x ∈ xs, rel x fs gs) (xs.forM f) := by
  intro s t hfree hsame hfollowed
  induction xs generalizing s t with
  | nil => exact ⟨rfl, rfl⟩
  | cons x xs ih =>
      obtain ⟨hx, hxs⟩ := List.forall_mem_cons.1 hrepeats
      obtain ⟨hxextends, hextends⟩ := List.pairwise_cons.1 hextends
      have hleft := (hwork x).linkFree hfree
      have hlimit' := hlimit x s
      rcases hrun : (f x).runOn s with ⟨e | ⟨⟩, u⟩
      · rw [runOn_forM_of_error hrun] at hfollowed
        obtain ⟨hresult, hmachine⟩ := hx s t hfree hsame (by rw [hrun]; exact hfollowed)
        rw [hrun] at hresult
        rcases hagain : (f x).runOn t with ⟨_ | ⟨⟩, u'⟩ <;> rw [hagain] at hresult hmachine <;>
          cases hresult
        rw [runOn_forM_of_error hrun, runOn_forM_of_error hagain]
        exact ⟨rfl, hmachine⟩
      -- Else the later steps have kept what this one needs, and they go on where they went on before.
      · rw [runOn_forM_of_ok hrun] at hfollowed
        rw [hrun] at hleft hlimit'
        have hrest : rel x u.machine.files t.machine.files :=
          (hfollowed.mono fun fs gs h => h x List.mem_cons_self).back (hrefl x)
            (.forM hwork hxextends) hleft
        obtain ⟨hresult, hmachine⟩ := hx s t hfree hsame (by rw [hrun]; exact hrest)
        rw [hrun] at hresult
        rcases hagain : (f x).runOn t with ⟨_ | ⟨⟩, u'⟩ <;> rw [hagain] at hresult hmachine <;>
          cases hresult
        rw [runOn_forM_of_ok hrun, runOn_forM_of_ok hagain, ← hmachine]
        apply ih hxs hextends u u' hleft
        · rw [hmachine, hsame, hlimit']
        · rw [hmachine]
          exact hfollowed.mono fun fs gs h y hy => h y (List.mem_cons_of_mem x hy)

end Loops

theorem Extends.of_same {p : Path} {step : Boot σ Unit}
    (h : ∀ s, s.machine.files.LinkFree → Same p s.machine.files (step.runOn s).2.machine.files) :
    Extends (Same p) step :=
  fun s _ hfree hsame => (h s hfree).trans hsame

theorem Extends.same {p : Path} {step : Boot σ Unit} (h : Extends (Same p) step) {s : BootState σ}
    (hfree : s.machine.files.LinkFree) : Same p s.machine.files (step.runOn s).2.machine.files :=
  h s _ hfree (.refl p _)

end Boot

namespace Sysctl

def judge (path : Path) (knob : Knob) (kernel : Version) :
    Except IoFault Unit → Except BootError Unit
  | .ok () => .ok ()
  | .error fault => if kernel.atLeast knob.fatalFrom then .error (.sysctl path fault) else .ok ()

def told (path : Path) (knob : Knob) (kernel : Version) : Except IoFault Unit → Event
  | .ok () =>
    ⟨.info, .sysctl, "sysctl set",
      [("path", .plain path.display), ("value", .quoted (shownValue knob))]⟩
  | .error fault =>
    if kernel.atLeast knob.fatalFrom then
      ⟨.error, .sysctl, "sysctl write failed",
        [("path", .plain path.display), ("value", .quoted (shownValue knob)),
          ("error", .plain fault.message)]⟩
    else
      ⟨.warn, .sysctl, "sysctl write failed, tolerated on this kernel",
        [("path", .plain path.display), ("error", .plain fault.message),
          ("kernel", .plain kernel.text)]⟩

theorem runOn_applyKnob (root : Path) (knob : Knob) (kernel : Version) (s : BootState σ) :
    let path := root.join (.ofString knob.path)
    let written := write path knob.value s.machine
    (applyKnob root knob kernel).runOn s =
      (judge path knob kernel written.1,
        { s with
          machine := written.2
          log := s.log ++ [told path knob kernel written.1]
          effects := s.effects ++ [.writeKnob path] }) := by
  simp only [applyKnob, Boot.runOn_bind, Boot.runOn_perform, Boot.onMachine_apply]
  rcases (write (root.join (.ofString knob.path)) knob.value s.machine).1 with fault | ⟨⟩
  · simp only [judge, told]
    split <;> rfl
  · rfl

theorem write_of_same {path : Path} {value : String} {m m' : Machine}
    (hlimit : m'.writeLimit = m.writeLimit)
    (h : Same path (write path value m).2.files m'.files) :
    write path value m' = ((write path value m).1, m') := by
  simp only [write, hlimit, FileSystem.overwrite_of_same h]
  rw [← hlimit]

theorem repeats_applyKnob (root : Path) (knob : Knob) (kernel : Version) :
    Boot.Repeats (Same (root.join (.ofString knob.path)))
      (applyKnob root knob kernel : Boot σ Unit) := by
  intro s t _ hlimit hfollowed
  have h := runOn_applyKnob root knob kernel s
  have h' := runOn_applyKnob root knob kernel t
  have hsame : Same (root.join (.ofString knob.path))
      (write (root.join (.ofString knob.path)) knob.value s.machine).2.files t.machine.files := by
    rw [h] at hfollowed
    exact hfollowed.related (.refl _)
  rw [h, h', write_of_same hlimit hsame]
  exact ⟨rfl, rfl⟩

theorem writeLimit_applyKnob (root : Path) (knob : Knob) (kernel : Version) (s : BootState σ) :
    ((applyKnob root knob kernel).runOn s).2.machine.writeLimit = s.machine.writeLimit := by
  have h := runOn_applyKnob root knob kernel s
  rw [h]
  rfl

theorem extends_applyKnob {root base q : Path} {knob : Knob} {xs ys : List Path.Name}
    (hp : base.IsBelow xs (root.join (.ofString knob.path)))
    (hslash : (root.join (.ofString knob.path)).endsInSlash = false) (hq : base.IsBelow ys q)
    (hopen : q.endsInSlash = false) (hne : xs ≠ ys) (kernel : Version) :
    Boot.Extends (Same q) (applyKnob root knob kernel : Boot σ Unit) := by
  apply Boot.Extends.of_same
  intro s hfree
  have h := runOn_applyKnob root knob kernel s
  rw [h]
  exact hfree.same_overwrite hp hq hopen hslash hne _ _

end Sysctl

namespace Pin

theorem repeats_create (root : Path) (pin : String) :
    Boot.Repeats FileSystem.Grows (create root pin : Boot σ Unit) := by
  intro s t _ _ hfollowed
  by_cases hpin : pin = ""
  · rw [hpin, runOn_create_empty, runOn_create_empty]
    exact ⟨rfl, rfl⟩
  obtain ⟨log, h⟩ := runOn_create hpin root s
  obtain ⟨log', h'⟩ := runOn_create hpin root t
  rw [h] at hfollowed ⊢
  rw [h']
  generalize root.join (.ofString pin) = path at hfollowed ⊢
  have hagain (hoccupied : (s.machine.files.makeDirectory 0 mode path).2.Occupied path)
      (hgrows : (s.machine.files.makeDirectory 0 mode path).2.Grows t.machine.files) :
      t.machine.files.makeDirectory 0 mode path = (.error (.os .alreadyExists), t.machine.files) :=
    FileSystem.makeDirectory_of_occupied (hoccupied.grows hgrows) 0 mode
  rcases hresult : (s.machine.files.makeDirectory 0 mode path).1 with fault | ⟨⟩ <;>
    simp only [hresult] at hfollowed
  · by_cases hexists : fault = .os .alreadyExists
    · subst hexists
      obtain ⟨hleft, hoccupied⟩ := FileSystem.occupied_of_makeDirectory hresult
      simp only [hagain (by rwa [hleft]) hfollowed, and_self]
    · have hleft : (s.machine.files.makeDirectory 0 mode path).2 = s.machine.files :=
        FileSystem.files_of_failed hresult
      simp only [hexists, if_false] at hfollowed
      have hsame : t.machine.files = s.machine.files := hfollowed.trans hleft
      simp only [hsame, hresult, hleft, true_and]
      rw [← hsame]
  · simp only [hagain (FileSystem.occupied_of_made hresult) hfollowed, if_true, and_self]

theorem writeLimit_create (root : Path) (pin : String) (s : BootState σ) :
    ((create root pin).runOn s).2.machine.writeLimit = s.machine.writeLimit := by
  by_cases hpin : pin = ""
  · rw [hpin, runOn_create_empty]
  · obtain ⟨log, h⟩ := runOn_create hpin root s
    rw [h]

theorem repeats_createAll (root : Path) (locations : List Location) :
    Boot.Repeats FileSystem.Grows (createAll root locations : Boot σ Unit) := by
  rw [createAll_eq_forM]
  have hloop : Boot.Repeats (fun fs gs => ∀ pin ∈ names locations, FileSystem.Grows fs gs)
      ((names locations).forM (create root) : Boot σ Unit) :=
    .forM (fun _ => .refl) (isWork_create root) (writeLimit_create root)
      (fun pin _ => repeats_create root pin)
      (List.pairwise_of_forall fun _ pin s gs _ hgrows =>
        (isWork_create root pin s).1.files.trans hgrows)
  intro s t hfree hlimit hfollowed
  exact hloop s t hfree hlimit (hfollowed.mono fun fs gs hgrows _ _ => hgrows)

theorem extends_create {root base q : Path} {pin : String} {xs ys : List Path.Name}
    (hp : base.IsBelow xs (root.join (.ofString pin))) (hq : base.IsBelow ys q)
    (hopen : q.endsInSlash = false) (hxs : xs ≠ []) (hne : ¬xs <+: ys) :
    Boot.Extends (Same q) (create root pin : Boot σ Unit) := by
  apply Boot.Extends.of_same
  intro s hfree
  by_cases hpin : pin = ""
  · rw [hpin, runOn_create_empty]
    exact .refl q _
  obtain ⟨log, h⟩ := runOn_create hpin root s
  rw [h]
  exact hfree.same_makeDirectory hp hq hopen hxs hne 0 mode

end Pin

end BpfBoot
