import BpfBoot.Machine

namespace BpfBoot

variable {σ τ α β ε : Type}

/-- Two states that differ in nothing but their logs and in what `rel` leaves open of the
collaborators' states. -/
structure BootState.Alike (rel : σ → τ → Prop) (s : BootState σ) (t : BootState τ) : Prop where
  machine : s.machine = t.machine
  outside : rel s.outside t.outside
  effects : s.effects = t.effects

theorem BootState.Alike.trans {s t u : BootState σ} (h : s.Alike Eq t) (h' : t.Alike Eq u) :
    s.Alike Eq u :=
  ⟨h.machine.trans h'.machine, h.outside.trans h'.outside, h.effects.trans h'.effects⟩

def Matches (rel : σ → τ → Prop) (a : StateM (Machine × σ) α) (b : StateM (Machine × τ) α) : Prop :=
  ∀ m o p, rel o p →
    (a (m, o)).1 = (b (m, p)).1 ∧ (a (m, o)).2.1 = (b (m, p)).2.1 ∧ rel (a (m, o)).2.2 (b (m, p)).2.2

theorem Matches.refl (a : StateM (Machine × σ) α) : Matches Eq a a := by
  intro m o p h
  rw [h]
  exact ⟨rfl, rfl, rfl⟩

theorem matches_onMachine {rel : σ → τ → Prop} (step : Machine → α × Machine) :
    Matches rel (Boot.onMachine step) (Boot.onMachine step) := fun _ _ _ h => ⟨rfl, rfl, h⟩

namespace Boot

/-- On states that are alike the two steps have the same result, and leave states that are alike. -/
def Simulates (rel : σ → τ → Prop) (a : Boot σ α) (b : Boot τ α) : Prop :=
  ∀ s t, s.Alike rel t →
    (a.runOn s).1 = (b.runOn t).1 ∧ (a.runOn s).2.Alike rel (b.runOn t).2

namespace Simulates

variable {rel : σ → τ → Prop}

theorem pure (a : α) : Simulates rel (pure a) (pure a) := fun _ _ h => ⟨rfl, h⟩

theorem throw (e : BootError) : Simulates rel (throw e : Boot σ α) (throw e) :=
  fun _ _ h => ⟨rfl, h⟩

theorem tell (e : Event) : Simulates rel (tell e) (tell e) :=
  fun _ _ h => ⟨rfl, h.machine, h.outside, h.effects⟩

theorem files : Simulates rel files files := fun _ _ h => ⟨by simp [h.machine], h⟩

theorem logged (x : Logged α) : Simulates rel (logged x) (logged x) :=
  fun _ _ h => ⟨rfl, h.machine, h.outside, h.effects⟩

theorem judged (error : ε → BootError) (x : Logged (Except ε α)) :
    Simulates rel (judged error x) (judged error x) := by
  intro s t h
  simp only [runOn_judged, true_and]
  exact ⟨h.machine, h.outside, h.effects⟩

theorem perform (effect : Effect) {a : StateM (Machine × σ) α} {b : StateM (Machine × τ) α}
    (hab : Matches rel a b) : Simulates rel (perform effect a) (perform effect b) := by
  intro s t h
  obtain ⟨hvalue, hmachine, houtside⟩ := hab t.machine s.outside t.outside h.outside
  simp only [runOn_perform, h.machine, hvalue, true_and]
  exact ⟨hmachine, houtside, congrArg (· ++ [effect]) h.effects⟩

theorem bind {a : Boot σ α} {b : Boot τ α} {f : α → Boot σ β} {g : α → Boot τ β}
    (h : Simulates rel a b) (hfg : ∀ x, Simulates rel (f x) (g x)) :
    Simulates rel (a >>= f) (b >>= g) := by
  intro s t hst
  obtain ⟨hvalue, hleft⟩ := h s t hst
  rw [runOn_bind, runOn_bind]
  rcases ha : a.runOn s with ⟨_ | x, u⟩ <;> rcases hb : b.runOn t with ⟨_ | y, v⟩ <;>
    simp only [ha, hb, reduceCtorEq, Except.error.injEq, Except.ok.injEq] at hvalue hleft
  · exact ⟨congrArg Except.error hvalue, hleft⟩
  · subst hvalue
    exact hfg x u v hleft

theorem forM {f : α → Boot σ Unit} {g : α → Boot τ Unit} (h : ∀ x, Simulates rel (f x) (g x))
    (xs : List α) : Simulates rel (xs.forM f) (xs.forM g) := by
  induction xs with
  | nil => exact .pure ()
  | cons x xs ih => exact (h x).bind fun _ => ih

theorem foldlM {f : β → α → Boot σ β} {g : β → α → Boot τ β}
    (h : ∀ b x, Simulates rel (f b x) (g b x)) (xs : List α) (b : β) :
    Simulates rel (xs.foldlM f b) (xs.foldlM g b) := by
  induction xs generalizing b with
  | nil => exact .pure b
  | cons x xs ih => exact (h b x).bind ih

/-- Where a step that is blind to the log ends a run, and what it hands to the next one. -/
theorem runOn_bind_cases {step : Boot σ α} (h : Simulates Eq step step) {s t : BootState σ}
    (hts : t.Alike Eq s) (next : α → Boot σ β) :
    ∃ u, u.Alike Eq (step.runOn s).2 ∧
      ((∃ e, (step.runOn s).1 = .error e ∧ (step >>= next).runOn t = (.error e, u)) ∨
        ∃ a, (step.runOn s).1 = .ok a ∧ (step >>= next).runOn t = (next a).runOn u) := by
  obtain ⟨hvalue, hleft⟩ := h t s hts
  refine ⟨(step.runOn t).2, hleft, ?_⟩
  rw [← hvalue, runOn_bind]
  rcases step.runOn t with ⟨e | a, u⟩
  · exact .inl ⟨e, rfl, rfl⟩
  · exact .inr ⟨a, rfl, rfl⟩

end Simulates

end Boot

end BpfBoot
