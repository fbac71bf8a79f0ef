import Mathlib
import BpfBoot.Machine
import BpfBoot.Proofs.Admission

namespace BpfBoot

namespace Requirement

def stops (r : Requirement) (f : Facts) : Bool := r.severity = .fail && r.violatedBy f

def warns (r : Requirement) (f : Facts) : Bool := r.severity = .warn && r.violatedBy f

end Requirement

namespace Gate

variable {σ : Type} {table : List Requirement} {f g : Facts}

/-- The requirements that warn of a device before one stops it. -/
def warned (table : List Requirement) (f : Facts) : List Requirement :=
  (table.takeWhile fun r => !r.stops f).filter fun r => r.warns f

def unmet (f : Facts) : List Refusal :=
  (if 35 ≤ f.api ∧ f.isX86 = true ∧ f.isKernel64 = false then [.x86Kernel32] else []) ++
    (if f.isUser32 = true ∧ f.kernel.atLeast ⟨6, 2, 0⟩ = true then [.user32] else []) ++
      if f.build.isKnown then [] else [.unknownBuild f.build.name]

/-- The first of all that keeps a device from booting. -/
def obstacle? (table : List Requirement) (f : Facts) : Option Refusal :=
  ((table.filter fun r => r.stops f).map Refusal.oldKernel ++ unmet f).head?

def refusalEvent (f : Facts) : Refusal → Event
  | .oldKernel r => violationEvent .error r f
  | refusal => ⟨.error, .gate, refusal.message, []⟩

theorem value_judge (table : List Requirement) (f : Facts) :
    (judge f (violations table f)).value =
      match table.find? fun r => r.stops f with
      | none => .ok ()
      | some r => .error (.oldKernel r) := by
  induction table with
  | nil => rfl
  | cons r table ih =>
      rw [violations] at ih ⊢
      cases hviolated : r.violatedBy f with
      | false => simp [hviolated, Requirement.stops, ih]
      | true =>
          cases hseverity : r.severity with
          | warn => simp [hviolated, hseverity, judge, Requirement.stops, ih]
          | fail => simp [hviolated, hseverity, judge, Requirement.stops]

theorem events_judge (table : List Requirement) (f : Facts) :
    (judge f (violations table f)).events =
      (warned table f).map (violationEvent .warn · f) ++
        (table.find? fun r => r.stops f).toList.map (violationEvent .error · f) := by
  induction table with
  | nil => rfl
  | cons r table ih =>
      rw [violations, warned] at ih ⊢
      cases hviolated : r.violatedBy f with
      | false => simp [hviolated, Requirement.stops, Requirement.warns, ih]
      | true =>
          cases hseverity : r.severity with
          | warn =>
              simp [hviolated, hseverity, judge, Logged.tell, Requirement.stops, Requirement.warns, ih]
          | fail => simp [hviolated, hseverity, judge, Logged.tell, Requirement.stops]

theorem unmet?_eq_head? (f : Facts) : unmet? f = (unmet f).head? := by
  have hlevel : f.apiAtLeast Api.v = true ↔ 35 ≤ f.api := decide_eq_true_iff
  simp only [unmet?, unmet, user64From, Bool.and_eq_true, Bool.not_eq_true', hlevel, and_assoc]
  split_ifs <;> simp_all

theorem obstacle?_eq (table : List Requirement) (f : Facts) :
    obstacle? table f = ((table.find? fun r => r.stops f).map Refusal.oldKernel).or (unmet? f) := by
  rw [obstacle?, List.head?_append, List.head?_map, List.head?_filter, unmet?_eq_head?]

theorem refusalEvent_of_unmet? {refusal : Refusal} (h : unmet? f = some refusal) :
    refusalEvent f refusal = ⟨.error, .gate, refusal.message, []⟩ := by
  unfold unmet? at h
  split_ifs at h <;> cases h <;> rfl

theorem value_checkAgainst (table : List Requirement) (f : Facts) :
    (checkAgainst table f).value =
      match obstacle? table f with
      | none => .ok ()
      | some refusal => .error refusal := by
  rw [checkAgainst, Logged.value_bind, value_judge, obstacle?_eq]
  cases table.find? fun r => r.stops f with
  | none => cases unmet? f <;> rfl
  | some r => rfl

theorem events_checkAgainst (table : List Requirement) (f : Facts) :
    (checkAgainst table f).events =
      (warned table f).map (violationEvent .warn · f) ++
        (obstacle? table f).toList.map (refusalEvent f) := by
  rw [checkAgainst, Logged.events_bind, value_judge, events_judge, obstacle?_eq]
  cases table.find? fun r => r.stops f with
  | none =>
      cases hunmet : unmet? f with
      | none => simp
      | some refusal => simp [refusalEvent_of_unmet? hunmet, Logged.tell]
  | some r => simp [refusalEvent]

/-- A device is let through if no fatal requirement of the table is violated and no condition
outside the table is failed; else the error carries the message of the first of these. The log gets
the warnings of the violated requirements before the first fatal one, and one error event more for a
refusal. -/
theorem verdict_of_table (table : List Requirement) (f : Facts) (s : BootState σ) :
    ((checkAgainst table f).value = .ok () ↔
        (∀ r ∈ table, r.severity = .fail → r.violatedBy f = false) ∧
          ¬(35 ≤ f.api ∧ f.isX86 = true ∧ f.isKernel64 = false) ∧
          ¬(f.isUser32 = true ∧ f.kernel.atLeast ⟨6, 2, 0⟩ = true) ∧ f.build.isKnown = true) ∧
      (Boot.judged (fun refusal => .capability refusal.message) (checkAgainst table f)).runOn s =
        (match obstacle? table f with
          | none => .ok ()
          | some refusal => .error (.capability refusal.message),
          { s with
            log := s.log ++ ((warned table f).map (violationEvent .warn · f) ++
              (obstacle? table f).toList.map (refusalEvent f)) }) := by
  constructor
  · have hfatal : (∀ r ∈ table, r.violatedBy f = true → r.severity = .warn) ↔
        ∀ r ∈ table, r.severity = .fail → r.violatedBy f = false := by
      refine forall₂_congr fun r _ => ?_
      cases r.severity <;> cases r.violatedBy f <;> simp
    have hx86 : (Api.v ≤ f.api → f.isX86 = true → f.isKernel64 = true) ↔
        ¬(35 ≤ f.api ∧ f.isX86 = true ∧ f.isKernel64 = false) := by
      cases f.isX86 <;> cases f.isKernel64 <;> simp [Api.v]
    rw [value_checkAgainst_eq_ok_iff, unmet?_eq_none_iff, hfatal, hx86, user64From]
  · rw [Boot.runOn_judged, value_checkAgainst, events_checkAgainst]
    cases obstacle? table f <;> rfl

section Monotone

def warnings (told : Logged (Except Refusal Unit)) : List Event :=
  told.events.filter (·.level = .warn)

/-- Nothing keeps `g` from booting that does not keep `f` from it. -/
structure Milder (g f : Facts) : Prop where
  violated : ∀ r : Requirement, r.violatedBy g = true → r.violatedBy f = true
  unmet : unmet? f = none → unmet? g = none

theorem Milder.accepted (h : Milder g f) (hok : (checkAgainst table f).value = .ok ()) :
    (checkAgainst table g).value = .ok () := by
  rw [value_checkAgainst_eq_ok_iff] at hok ⊢
  exact ⟨fun r hr hviolated => hok.1 r hr (h.violated r hviolated), h.unmet hok.2⟩

theorem Milder.violations (h : Milder g f) (table : List Requirement) :
    (violations table g).Sublist (violations table f) :=
  List.monotone_filter_right table h.violated

theorem warnings_of_ok (hok : (checkAgainst table f).value = .ok ()) :
    warnings (checkAgainst table f) = (violations table f).map (violationEvent .warn · f) := by
  have hnone : obstacle? table f = none := by
    rw [value_checkAgainst] at hok
    cases hobstacle : obstacle? table f with
    | none => rfl
    | some refusal => simp [hobstacle] at hok
  have hwarned : warned table f = violations table f := by
    have hwarn := (value_checkAgainst_eq_ok_iff.1 hok).1
    rw [warned, violations, List.takeWhile_eq_self_iff.2]
    · refine List.filter_congr fun r hr => ?_
      cases hviolated : r.violatedBy f with
      | false => simp [Requirement.warns, hviolated]
      | true => simp [Requirement.warns, hviolated, hwarn r hr hviolated]
    · intro r hr
      cases hviolated : r.violatedBy f with
      | false => simp [Requirement.stops, hviolated]
      | true => simp [Requirement.stops, hwarn r hr hviolated]
  rw [warnings, events_checkAgainst, hnone, hwarned]
  simp [violationEvent]

theorem milder_of_kernel {kernel : Version} (huser : f.isUser32 = false)
    (h : kernel.atLeast f.kernel = true) : Milder { f with kernel } f := by
  constructor
  · intro r hr
    rw [Requirement.violatedBy, Bool.and_eq_true, Bool.not_eq_true', ← Bool.not_eq_true] at hr ⊢
    exact ⟨hr.1, fun hold => hr.2 (Version.atLeast_trans h hold)⟩
  · rw [unmet?_eq_none_iff, unmet?_eq_none_iff]
    rintro ⟨hx86, -, hbuild⟩
    exact ⟨hx86, by simp [huser], hbuild⟩

theorem milder_of_api {api : UInt32} (h : api ≤ f.api) : Milder { f with api } f := by
  constructor
  · intro r hr
    rw [Requirement.violatedBy, Facts.apiAtLeast, Bool.and_eq_true, decide_eq_true_eq] at hr ⊢
    exact ⟨UInt32.le_trans hr.1 h, hr.2⟩
  · rw [unmet?_eq_none_iff, unmet?_eq_none_iff]
    rintro ⟨hx86, hrest⟩
    exact ⟨fun hlevel => hx86 (UInt32.le_trans hlevel h), hrest⟩

def renamed (kernel : Version) (warning : Event) : Event :=
  { warning with fields := [("kernel", .plain kernel.text)] }

theorem map_renamed (kernel : Version) (rs : List Requirement) :
    (rs.map (violationEvent .warn · f)).map (renamed kernel) =
      rs.map (violationEvent .warn · { f with kernel }) := by
  rw [List.map_map]
  rfl

/-- A device that is let through is so with a newer kernel too, if its programs are 64-bit ones, and
at a lower level. It is then warned of nothing that it was not warned of before; a warning names the
kernel that the device has. -/
theorem accepted_mono (table : List Requirement) (f : Facts)
    (hok : (checkAgainst table f).value = .ok ()) :
    let told := checkAgainst table f
    (∀ kernel : Version, f.isUser32 = false → kernel.atLeast f.kernel = true →
        let told' := checkAgainst table { f with kernel }
        told'.value = .ok () ∧
          ((warnings told').map Event.message).Sublist ((warnings told).map Event.message) ∧
          (warnings told').Sublist ((warnings told).map (renamed kernel))) ∧
      ∀ api ≤ f.api,
        let told' := checkAgainst table { f with api }
        told'.value = .ok () ∧ (warnings told').Sublist (warnings told) := by
  intro told
  constructor
  · intro kernel huser hkernel told'
    have hmilder := milder_of_kernel huser hkernel
    have hok' := hmilder.accepted hok
    have hrenamed : (warnings told').Sublist ((warnings told).map (renamed kernel)) := by
      rw [warnings_of_ok hok, warnings_of_ok hok', map_renamed]
      exact (hmilder.violations table).map _
    refine ⟨hok', ?_, hrenamed⟩
    have hmessages := hrenamed.map Event.message
    rwa [List.map_map] at hmessages
  · intro api hapi told'
    have hmilder := milder_of_api hapi
    have hok' := hmilder.accepted hok
    refine ⟨hok', ?_⟩
    rw [warnings_of_ok hok, warnings_of_ok hok']
    exact (hmilder.violations table).map _

def outdated : Facts := ⟨⟨4, 4, 0⟩, false, true, false, 34, .user⟩

theorem accepted_mono_outdated :
    let table := requirements.reverse
    let told := checkAgainst table outdated
    let newer := checkAgainst table { outdated with kernel := ⟨4, 10, 0⟩ }
    let lower := checkAgainst table { outdated with api := 33 }
    (told.value = .ok () ∧ (warnings told).length = 2) ∧
      (newer.value = .ok () ∧ (warnings newer).length = 1 ∧
        ((warnings newer).map Event.message).Sublist ((warnings told).map Event.message)) ∧
      lower.value = .ok () ∧ (warnings lower).length = 1 ∧ (warnings lower).Sublist (warnings told) := by
  intro table told newer lower
  have hok : told.value = .ok () := by decide
  obtain ⟨hnewer, hlower⟩ := accepted_mono table outdated hok
  obtain ⟨hkernel, hmessages, -⟩ := hnewer ⟨4, 10, 0⟩ (by decide) (by decide)
  obtain ⟨happi, hwarnings⟩ := hlower 33 (by decide)
  exact ⟨⟨hok, by decide⟩, ⟨hkernel, by decide, hmessages⟩, happi, by decide, hwarnings⟩

end Monotone

end Gate

end BpfBoot
