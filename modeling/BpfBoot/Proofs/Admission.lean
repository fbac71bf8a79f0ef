import Mathlib
import BpfBoot.Kernel.Gate
import BpfBoot.Kernel.Probe
import BpfBoot.Proofs.Assignments
import BpfBoot.Proofs.VersionOrder

namespace BpfBoot

theorem BuildType.isKnown_ofName (name : String) :
    (ofName name).isKnown = true ↔
      String.ofList (Text.trim name.toList) ∈ ["eng", "user", "userdebug"] := by
  rw [ofName]
  split_ifs <;> simp_all [isKnown]

namespace Gate

variable {f : Facts}

theorem value_judge_eq_ok_iff {violated : List Requirement} :
    (judge f violated).value = .ok () ↔ ∀ r ∈ violated, r.severity = .warn := by
  induction violated with
  | nil => simp [judge]
  | cons r violated ih =>
      rw [judge, List.forall_mem_cons]
      cases r.severity <;> simp [ih]

theorem value_checkAgainst_eq_ok_iff {table : List Requirement} :
    (checkAgainst table f).value = .ok () ↔
      (∀ r ∈ table, r.violatedBy f = true → r.severity = .warn) ∧ unmet? f = none := by
  have hjudge := @value_judge_eq_ok_iff f (violations table f)
  simp only [violations, List.mem_filter, and_imp] at hjudge
  rw [checkAgainst, Logged.value_bind, ← hjudge, ← violations]
  cases (judge f (violations table f)).value with
  | error refusal => simp
  | ok => cases unmet? f <;> simp

theorem unmet?_eq_none_iff :
    unmet? f = none ↔ (Api.v ≤ f.api → f.isX86 = true → f.isKernel64 = true) ∧
      ¬(f.isUser32 = true ∧ f.kernel.atLeast user64From = true) ∧ f.build.isKnown = true := by
  rw [unmet?]
  split_ifs <;> simp_all [Facts.apiAtLeast]

theorem value_check_eq_ok_iff :
    (check f).value = .ok () ↔
      (Api.v ≤ f.api → f.kernel.atLeast ⟨4, 19, 0⟩ = true ∧ (f.isX86 = true → f.isKernel64 = true)) ∧
        ¬(f.isUser32 = true ∧ f.kernel.atLeast user64From = true) ∧ f.build.isKnown = true := by
  have hfatal : (∀ r ∈ requirements, r.violatedBy f = true → r.severity = .warn) ↔
      (Api.v ≤ f.api → f.kernel.atLeast ⟨4, 19, 0⟩ = true) := by
    simp [requirements, Requirement.violatedBy, Facts.apiAtLeast]
  rw [check, value_checkAgainst_eq_ok_iff, hfatal, unmet?_eq_none_iff]
  tauto

end Gate

namespace Facts

open Properties (LastAssigns get?_ofText_eq_some_iff trim_of_get?_ofText)

variable {text release machine : String} {api : UInt32} {props : Properties}

/-- The level that a text of build properties tells of: zero if no line assigns one, or if the last
line that does assigns no word of 32 bits. -/
inductive ApiLevel (text : String) : UInt32 → Prop
  | told {value : String} {api : UInt32} (h : LastAssigns text apiProperty value)
      (hword : Text.word32? value.toList = some api) : ApiLevel text api
  | untold (h : ∀ value, LastAssigns text apiProperty value → Text.word32? value.toList = none) :
      ApiLevel text 0

theorem apiLevel_of_unreadable {value : String} (h : LastAssigns text apiProperty value)
    (hword : Text.word32? value.toList = none) : ApiLevel text 0 := by
  refine .untold fun other hother => ?_
  rw [← get?_ofText_eq_some_iff] at h hother
  cases h.symm.trans hother
  exact hword

theorem apiLevel_iff : ApiLevel text api ↔ (api? (.ofText text)).getD 0 = api := by
  rw [api?]
  constructor
  · rintro (⟨h, hword⟩ | h)
    · rw [← get?_ofText_eq_some_iff] at h
      rw [h, Option.bind_some, trim_of_get?_ofText h, hword]
      rfl
    · rcases hvalue : (Properties.ofText text).get? apiProperty with _ | value
      · rfl
      · rw [Option.bind_some, trim_of_get?_ofText hvalue, h value (get?_ofText_eq_some_iff.1 hvalue)]
        rfl
  · rintro rfl
    rcases hvalue : (Properties.ofText text).get? apiProperty with _ | value
    · refine .untold fun value h => ?_
      cases hvalue.symm.trans (get?_ofText_eq_some_iff.2 h)
    · rw [Option.bind_some, trim_of_get?_ofText hvalue]
      rcases hword : Text.word32? value.toList with _ | api
      · exact apiLevel_of_unreadable (get?_ofText_eq_some_iff.1 hvalue) hword
      · exact .told (get?_ofText_eq_some_iff.1 hvalue) hword

theorem isKnown_buildType :
    (buildType (.ofText text)).isKnown = true ↔
      ∃ name ∈ ["eng", "user", "userdebug"], LastAssigns text buildTypeProperty name := by
  rw [buildType, BuildType.isKnown_ofName]
  simp only [← get?_ofText_eq_some_iff]
  rcases hname : (Properties.ofText text).get? buildTypeProperty with _ | name
  · have hnone : String.ofList (Text.trim "".toList) ∉ ["eng", "user", "userdebug"] := by decide
    simpa using hnone
  · rw [Option.getD_some, trim_of_get?_ofText hname, String.ofList_toList]
    simp

theorem value_ofParts (release machine : String) (props : Properties) :
    (ofParts release machine props).value =
      match Version.ofRelease? release with
      | none => .error (.unreadableRelease release)
      | some kernel => .ok {
          kernel
          isX86 := x86Machines.contains machine
          isKernel64 := machines64.contains machine
          isUser32 := false
          api := (api? props).getD 0
          build := buildType props } := by
  rw [ofParts]
  cases Version.ofRelease? release with
  | none => rfl
  | some kernel => cases h : (api? props).isNone <;> simp

section Detection

variable {fs : FileSystem} {kernel : KernelNames} {path : Path} {fault : IoFault}

theorem value_detect_of_ok (h : fs.readText path = .ok text) :
    (detect fs kernel path).value = (ofParts kernel.release kernel.machine (.ofText text)).value := by
  rw [detect, readProperties, h, Logged.value_bind, Logged.value_pure]

theorem value_detect_of_error (h : fs.readText path = .error fault) :
    (detect fs kernel path).value = (ofParts kernel.release kernel.machine .empty).value := by
  rw [detect, readProperties, h, Logged.value_bind, Logged.value_bind, Logged.value_pure]

end Detection

theorem machine32_iff :
    (x86Machines.contains machine = true → machines64.contains machine = true) ↔
      machine ∉ ["i386", "i486", "i586", "i686"] := by
  by_cases h : machine ∈ ["i386", "i486", "i586", "i686"]
  · simp only [h, not_true_eq_false, iff_false]
    simp only [List.mem_cons, List.not_mem_nil, or_false] at h
    rcases h with rfl | rfl | rfl | rfl <;> decide
  · simp_all [x86Machines, machines64]

def Admitted (told : Logged (Except Fault Facts)) : Prop :=
  ∃ facts, told.value = .ok facts ∧ (Gate.check facts).value = .ok ()

theorem admitted_ofParts_iff :
    Admitted (ofParts release machine props) ↔
      ∃ kernel, Version.ofRelease? release = some kernel ∧ (buildType props).isKnown = true ∧
        ((api? props).getD 0 < Api.v ∨
          kernel.atLeast ⟨4, 19, 0⟩ = true ∧ machine ∉ ["i386", "i486", "i586", "i686"]) := by
  rw [Admitted, value_ofParts]
  cases Version.ofRelease? release with
  | none => simp
  | some kernel =>
      simp only [Except.ok.injEq, exists_eq_left', Option.some.injEq, Gate.value_check_eq_ok_iff,
        machine32_iff, Bool.false_eq_true, false_and, not_false_eq_true, true_and]
      rw [imp_iff_not_or, UInt32.not_le, and_comm]

theorem admitted_ofText_iff :
    Admitted (ofParts release machine (.ofText text)) ↔
      ∃ kernel api, Version.ofRelease? release = some kernel ∧ ApiLevel text api ∧
        (∃ name ∈ ["eng", "user", "userdebug"], LastAssigns text buildTypeProperty name) ∧
        (api < 35 ∨ (4 < kernel.major ∨ kernel.major = 4 ∧ 19 ≤ kernel.minor) ∧
          machine ∉ ["i386", "i486", "i586", "i686"]) := by
  simp only [admitted_ofParts_iff, isKnown_buildType, Version.atLeast_of_minor, apiLevel_iff]
  constructor
  · rintro ⟨kernel, hkernel, hname, hgate⟩
    exact ⟨kernel, _, hkernel, rfl, hname, hgate⟩
  · rintro ⟨kernel, api, hkernel, rfl, hname, hgate⟩
    exact ⟨kernel, hkernel, hname, hgate⟩

theorem not_admitted_empty (release machine : String) :
    ¬Admitted (ofParts release machine .empty) := by
  rw [admitted_ofParts_iff]
  rintro ⟨kernel, -, hknown, -⟩
  exact absurd hknown (by decide)

/-- A device whose properties can be read is let through if the release of its kernel has a number,
the build type that the properties give last is a known one, and the level is below 35 or the kernel
is 4.19.0 or newer and no 32-bit one of an x86 machine. A level that is given last but is none
counts as zero, whatever was given before. Without properties no device is let through. -/
theorem admitted_iff (release machine : String) :
    (∀ text, Admitted (ofParts release machine (.ofText text)) ↔
      ∃ kernel api, Version.ofRelease? release = some kernel ∧ ApiLevel text api ∧
        (∃ name ∈ ["eng", "user", "userdebug"], LastAssigns text buildTypeProperty name) ∧
        (api < 35 ∨ (4 < kernel.major ∨ kernel.major = 4 ∧ 19 ≤ kernel.minor) ∧
          machine ∉ ["i386", "i486", "i586", "i686"])) ∧
      (∀ fs path text, FileSystem.readText fs path = .ok text →
        (Admitted (detect fs ⟨release, machine⟩ path) ↔
          Admitted (ofParts release machine (.ofText text)))) ∧
      (∀ fs path fault, FileSystem.readText fs path = .error fault →
        ¬Admitted (detect fs ⟨release, machine⟩ path)) ∧
      ¬Admitted (ofParts release machine (.ofText "")) ∧
      ∀ text value, LastAssigns text apiProperty value → Text.word32? value.toList = none →
        (Admitted (ofParts release machine (.ofText text)) ↔
          (∃ kernel, Version.ofRelease? release = some kernel) ∧
            ∃ name ∈ ["eng", "user", "userdebug"], LastAssigns text buildTypeProperty name) := by
  refine ⟨fun text => admitted_ofText_iff, fun fs path text hread => ?_,
    fun fs path fault hread => ?_, ?_, fun text value hvalue hword => ?_⟩
  · rw [Admitted, value_detect_of_ok hread, Admitted]
  · rw [Admitted, value_detect_of_error hread]
    exact not_admitted_empty release machine
  · rw [show Properties.ofText "" = .empty from rfl]
    exact not_admitted_empty release machine
  · rw [admitted_ofParts_iff, isKnown_buildType,
      apiLevel_iff.1 (apiLevel_of_unreadable hvalue hword)]
    have hlevel : 0 < Api.v := by decide
    simp only [hlevel, true_or, and_true, exists_and_right]

end Facts

end BpfBoot
