import BpfBoot.Proofs.Endings

namespace BpfBoot

variable {σ : Type}

def Effect.stage : Effect → Stage
  | .writeKnob _ => .knobs
  | .makeDirectory _ => .pins
  | .load .. | .stall _ => .sweep
  | .createMap | .writeMap => .maps

namespace Pipeline

/-- What has come to a good end before an effect occurs. -/
structure Allows (config : Config) (facts : Facts) (given : Collaborators σ) (argv0 : String)
    (s : BootState σ) (e : Effect) : Prop where
  reaches : Reaches config facts given argv0 s e.stage
  created : e = .writeMap →
    ∃ handle, (given.maps.create Sanity.shape (swept config facts given s).2).1 = .ok handle

theorem Allows.of_ne {config : Config} {facts : Facts} {given : Collaborators σ} {argv0 : String}
    {s : BootState σ} {e : Effect} (hreach : Reaches config facts given argv0 s e.stage)
    (hne : e ≠ .writeMap) : Allows config facts given argv0 s e :=
  ⟨hreach, fun h => absurd h hne⟩

structure Lawful (config : Config) (facts : Facts) (given : Collaborators σ) (argv0 : String)
    (s : BootState σ) (bound : Nat) (es : List Effect) : Prop where
  sorted : es.Pairwise fun a b => a.rank ≤ b.rank
  bounded : ∀ e ∈ es, e.rank ≤ bound
  allowed : ∀ e ∈ es, Allows config facts given argv0 s e

variable {config : Config} {facts : Facts} {given : Collaborators σ} {argv0 : String}
  {s t : BootState σ} {r : Except BootError Target} {bound rank : Nat} {es done : List Effect}

theorem Lawful.nil : Lawful config facts given argv0 s bound [] :=
  ⟨.nil, List.forall_mem_nil _, List.forall_mem_nil _⟩

theorem Lawful.mono (h : Lawful config facts given argv0 s bound es) (hbound : bound ≤ rank) :
    Lawful config facts given argv0 s rank es :=
  ⟨h.sorted, fun e he => Nat.le_trans (h.bounded e he) hbound, h.allowed⟩

/-- What is done in a later stage comes after all that was done before. -/
theorem Lawful.append (h : Lawful config facts given argv0 s bound es) (hbound : bound ≤ rank)
    (hrank : ∀ e ∈ done, e.rank = rank)
    (hdone : ∀ e ∈ done, Allows config facts given argv0 s e) :
    Lawful config facts given argv0 s rank (es ++ done) := by
  have hlow (e : Effect) (he : e ∈ es) : e.rank ≤ rank := Nat.le_trans (h.bounded e he) hbound
  refine ⟨List.pairwise_append.2 ⟨h.sorted, ?_, fun a ha b hb => ?_⟩, fun e he => ?_, fun e he => ?_⟩
  · exact List.pairwise_of_forall_mem_list fun a ha b hb =>
      Nat.le_of_eq ((hrank a ha).trans (hrank b hb).symm)
  · rw [hrank b hb]
    exact hlow a ha
  · exact (List.mem_append.1 he).elim (hlow e) fun he => Nat.le_of_eq (hrank e he)
  · exact (List.mem_append.1 he).elim (h.allowed e) (hdone e)

theorem Lawful.works {u : BootState σ} (h : Lawful config facts given argv0 s bound t.effects)
    (hworks : t.Works rank u) (hbound : bound ≤ rank)
    (hallows : ∀ e : Effect, e.rank = rank → Allows config facts given argv0 s e) :
    Lawful config facts given argv0 s rank u.effects := by
  obtain ⟨done, heffects, hdone⟩ := hworks.effects
  rw [heffects]
  exact h.append hbound hdone fun e he => hallows e (hdone e he)

theorem lawful_knobs (hs : s.effects = []) (hreach : Reaches config facts given argv0 s .knobs) :
    Lawful config facts given argv0 s 0 (knobs config facts s).2.effects := by
  have hnil : Lawful config facts given argv0 s 0 s.effects := by
    rw [hs]
    exact .nil
  refine hnil.works (works_knobs config facts s) (Nat.le_refl 0) fun e he => ?_
  cases e with
  | writeKnob => exact .of_ne hreach (by simp)
  | makeDirectory | load | stall | createMap | writeMap => cases he

theorem lawful_pins (hs : s.effects = []) (hreach : Reaches config facts given argv0 s .pins) :
    Lawful config facts given argv0 s 1 (pins config facts s).2.effects := by
  have hbefore := ((reaches_iff .knobs .pins rfl).1 hreach).1
  refine (lawful_knobs hs hbefore).works (works_pins config facts s) (by decide) fun e he => ?_
  cases e with
  | makeDirectory => exact .of_ne hreach (by simp)
  | writeKnob | load | stall | createMap | writeMap => cases he

theorem lawful_loads (hs : s.effects = []) (hreach : Reaches config facts given argv0 s .sweep) :
    Lawful config facts given argv0 s 2
      ((pins config facts s).2.effects ++
        (swept config facts given s).1.flatMap Load.Visit.effects) := by
  have hbefore := ((reaches_iff .pins .sweep rfl).1 hreach).1
  refine (lawful_pins hs hbefore).append (by decide) (fun e => Load.rank_of_mem_effects) fun e he => ?_
  have hrank := Load.rank_of_mem_effects he
  cases e with
  | load => exact .of_ne hreach (by simp)
  | writeKnob | makeDirectory | stall | createMap | writeMap => cases hrank

theorem lawful_sweep (hs : s.effects = []) (hreach : Reaches config facts given argv0 s .sweep) :
    Lawful config facts given argv0 s 3 (sweep config facts given s).2.effects := by
  have hloads := lawful_loads hs hreach
  obtain ⟨-, log, h⟩ | ⟨v, -, -, errno, log, h⟩ := sweep_cases config facts given s <;> rw [h]
  · exact hloads.mono (by decide)
  · refine hloads.append (by decide) (by simp [Effect.rank]) fun e he => ?_
    rw [List.mem_singleton.1 he]
    exact .of_ne hreach (by simp)

theorem lawful_maps (hs : s.effects = []) (hreach : Reaches config facts given argv0 s .maps) :
    Lawful config facts given argv0 s 4 (maps config facts given s).2.effects := by
  obtain ⟨hbefore, hpasses⟩ := (reaches_iff .sweep .maps rfl).1 hreach
  have hsweep := lawful_sweep hs hbefore
  have hcreate : Allows config facts given argv0 s .createMap := .of_ne hreach (by simp)
  have hcreated : Lawful config facts given argv0 s 3
      ((sweep config facts given s).2.effects ++ [.createMap]) :=
    hsweep.append (Nat.le_refl 3) (by simp [Effect.rank]) (by simpa using hcreate)
  obtain ⟨-, -, -, h⟩ | ⟨hhandle, -, h⟩ := maps_cases config facts given s <;> rw [h]
  · exact hcreated.mono (by decide)
  · have hstate : ((sweep config facts given s).2.machine, (sweep config facts given s).2.outside) =
        (swept config facts given s).2 := by
      obtain ⟨-, log, hs⟩ | ⟨v, hv, hcritical, -⟩ := sweep_cases config facts given s
      · rw [hs]
      · exact absurd hcritical (passes_sweep_iff.1 hpasses v hv)
    have hwrite : Allows config facts given argv0 s .writeMap := ⟨hreach, fun _ => hstate ▸ hhandle⟩
    rw [show [Effect.createMap, .writeMap] = [.createMap] ++ [.writeMap] from rfl,
      ← List.append_assoc]
    exact hcreated.append (by decide) (by simp [Effect.rank]) (by simpa using hwrite)

theorem Course.lawful (h : Course config facts given argv0 s r t) (hs : s.effects = []) :
    Lawful config facts given argv0 s 4 t.effects := by
  cases h with
  | undecided _ ht | delegated _ ht | refused _ _ ht =>
      rw [ht.effects, hs]
      exact .nil
  | untuned hreach _ ht =>
      rw [ht.effects]
      exact (lawful_knobs hs hreach).mono (by decide)
  | unpinned hreach _ ht =>
      rw [ht.effects]
      exact (lawful_pins hs hreach).mono (by decide)
  | unloaded hreach _ ht =>
      rw [ht.effects]
      exact (lawful_sweep hs hreach).mono (by decide)
  | unsound hreach _ ht | finished hreach _ ht =>
      rw [ht.effects]
      exact lawful_maps hs hreach

theorem Course.alike_of_not_reaches (h : Course config facts given argv0 s r t)
    (hnot : ¬Reaches config facts given argv0 s .knobs) : t.Alike Eq s := by
  have hbefore {stage : Stage} (hreach : Reaches config facts given argv0 s stage)
      (hsub : Stage.knobs.earlier ⊆ stage.earlier) : False :=
    hnot fun earlier hearlier => hreach earlier (hsub hearlier)
  cases h with
  | undecided _ ht | delegated _ ht | refused _ _ ht => exact ht
  | untuned hreach | unpinned hreach | unloaded hreach | unsound hreach | finished hreach =>
      exact (hbefore hreach (by decide)).elim

/-- The effects of a run stand in the order of its stages, and each has been allowed by all stages
before its own. A run that does not get past the gate has none and leaves the machine as it was;
after a critical failure nothing is done to maps. -/
theorem trace_of_run (config : Config) (facts : Facts) (given : Collaborators σ)
    (argv0 : String) (machine : Machine) (outside : σ) :
    let s : BootState σ := .start machine outside
    let t := (run config facts given argv0 s).2
    (t.effects.Pairwise fun a b => a.rank ≤ b.rank) ∧
      (∀ e ∈ t.effects, Reaches config facts given argv0 s e.stage) ∧
      (.writeMap ∈ t.effects →
        ∃ handle, (given.maps.create Sanity.shape (swept config facts given s).2).1 = .ok handle) ∧
      (¬Passes config facts given argv0 s .variant ∨ ¬Passes config facts given argv0 s .gate →
        t.effects = [] ∧ t.machine = machine ∧ t.outside = outside) ∧
      ∀ dir errno, ((target config facts given argv0).runOn s).1 = .error (.criticalLoad dir errno) →
        ∀ e ∈ t.effects, e.stage ≠ .maps := by
  intro s t
  have hcourse := course_of_target config facts given argv0 s
  have ht : t.Alike Eq ((target config facts given argv0).runOn s).2 := alike_outcome config _
  have hlawful : Lawful config facts given argv0 s 4 t.effects := by
    rw [ht.effects]
    exact hcourse.lawful rfl
  refine ⟨hlawful.sorted, fun e he => (hlawful.allowed e he).reaches,
    fun he => (hlawful.allowed _ he).created rfl, fun hfails => ?_, fun dir errno hr e he hmaps => ?_⟩
  · have hnot : ¬Reaches config facts given argv0 s .knobs := fun hreach =>
      hfails.elim (fun hv => hv (hreach .variant (by decide))) fun hg => hg (hreach .gate (by decide))
    have hsame := ht.trans (hcourse.alike_of_not_reaches hnot)
    exact ⟨hsame.effects, hsame.machine, hsame.outside⟩
  · have hreach := (hlawful.allowed e he).reaches
    rw [hmaps] at hreach
    rcases hcourse.exitCode hr with ⟨-, -, v, hv, hcritical⟩ | ⟨hcode, -⟩
    · exact passes_sweep_iff.1 (hreach .sweep (by decide)) v hv hcritical
    · cases hcode

end Pipeline

end BpfBoot
