import Mathlib
import BpfBoot.Command.Arguments

namespace BpfBoot.Command

variable {args front rest : List String} {argument : String} {options reached : Options}

def TakesValue (argument : String) : Prop := argument = "-f" ∨ argument = "--config"

instance : DecidablePred TakesValue := fun argument =>
  inferInstanceAs (Decidable (argument = "-f" ∨ argument = "--config"))

/-- An argument is looked at unless one that is looked at ends the options before it, or takes it as
its value. -/
def Active (args : List String) (i : Nat) : Prop :=
  ∀ j, (_ : j < i) → Active args j →
    args[j]? ≠ some "--" ∧ (j + 1 = i → ∀ a ∈ args[j]?, ¬TakesValue a)
termination_by i

instance decidableActive (args : List String) (i : Nat) : Decidable (Active args i) :=
  have hbefore := @Nat.decidableBallLT i
    (fun j _ => Active args j →
      args[j]? ≠ some "--" ∧ (j + 1 = i → ∀ a ∈ args[j]?, ¬TakesValue a))
    fun j _ => have := decidableActive args j; inferInstance
  @decidable_of_iff _ _ (by rw [← Active.eq_def]) hbefore
termination_by i

theorem active_zero (args : List String) : Active args 0 := by
  rw [Active]
  exact fun j h => absurd h (Nat.not_lt_zero j)

/-- Behind arguments that leave the next one to be looked at, all goes on as from the start. -/
theorem active_append (h : Active (front ++ rest) front.length) (i : Nat) :
    Active (front ++ rest) (front.length + i) ↔ Active rest i := by
  rw [Active] at h
  induction i using Nat.strong_induction_on with
  | _ i ih =>
    have hget (j : Nat) : (front ++ rest)[front.length + j]? = rest[j]? := by
      rw [List.getElem?_append_right (Nat.le_add_right _ _), Nat.add_sub_cancel_left]
    rw [Active, Active.eq_def rest]
    constructor
    · intro hbefore j hj hactive
      obtain ⟨hend, hvalue⟩ :=
        hbefore (front.length + j) (Nat.add_lt_add_left hj _) ((ih j hj).2 hactive)
      rw [hget] at hend hvalue
      exact ⟨hend, fun hnext => hvalue (by rw [Nat.add_assoc, hnext])⟩
    · intro hbefore j hj hactive
      by_cases hfront : j < front.length
      · obtain ⟨hend, hvalue⟩ := h j hfront hactive
        refine ⟨hend, fun hnext => hvalue ?_⟩
        omega
      · obtain ⟨k, rfl⟩ := Nat.exists_eq_add_of_le (Nat.not_lt.1 hfront)
        have hk : k < i := Nat.lt_of_add_lt_add_left hj
        obtain ⟨hend, hvalue⟩ := hbefore k hk ((ih k hk).1 hactive)
        rw [hget]
        exact ⟨hend, fun hnext => hvalue (by omega)⟩

theorem TakesValue.ne (h : TakesValue argument) : argument ≠ "--" := by
  rcases h with rfl | rfl <;> decide

theorem not_active_of_end (rest : List String) (i : Nat) : ¬Active ("--" :: rest) (i + 1) := by
  rw [Active]
  exact fun h => (h 0 (Nat.succ_pos i) (active_zero _)).1 rfl

theorem not_active_of_takesValue (h : TakesValue argument) (rest : List String) :
    ¬Active (argument :: rest) 1 := by
  rw [Active]
  exact fun hactive => (hactive 0 Nat.one_pos (active_zero _)).2 rfl argument rfl h

theorem active_cons (hend : argument ≠ "--") (hvalue : ¬TakesValue argument) (rest : List String)
    (i : Nat) : Active (argument :: rest) (i + 1) ↔ Active rest i := by
  have hnext : Active ([argument] ++ rest) 1 := by
    rw [Active]
    intro j hj _
    obtain rfl : j = 0 := Nat.lt_one_iff.1 hj
    refine ⟨fun heq => hend (Option.some.inj heq), fun _ a ha => ?_⟩
    rwa [← Option.some.inj ha]
  rw [Nat.add_comm]
  exact active_append hnext i

theorem active_cons_cons (h : TakesValue argument) (path : String) (rest : List String)
    (i : Nat) : Active (argument :: path :: rest) (i + 2) ↔ Active rest i := by
  have hnext : Active ([argument, path] ++ rest) 2 := by
    rw [Active]
    intro j hj hactive
    obtain rfl | rfl : j = 0 ∨ j = 1 := by omega
    · exact ⟨fun heq => h.ne (Option.some.inj heq), fun heq => by cases heq⟩
    · exact absurd hactive (not_active_of_takesValue h _)
  rw [Nat.add_comm]
  exact active_append hnext i

def total (weight : String → Nat) (args : List String) : Nat :=
  ∑ i ∈ Finset.range args.length, if Active args i then weight (args.getD i "") else 0

def letters (argument : String) : Nat :=
  if argument = "--verbose" then 1 else (countV? argument).getD 0

theorem total_end (weight : String → Nat) (rest : List String) :
    total weight ("--" :: rest) = weight "--" := by
  have hrest (i : Nat) : (if Active ("--" :: rest) (i + 1) then
      weight (("--" :: rest).getD (i + 1) "") else 0) = 0 := if_neg (not_active_of_end rest i)
  rw [total, List.length_cons, Finset.sum_range_succ', Finset.sum_eq_zero fun i _ => hrest i,
    if_pos (active_zero _), Nat.zero_add]
  rfl

theorem total_cons (hend : argument ≠ "--") (hvalue : ¬TakesValue argument)
    (weight : String → Nat) (rest : List String) :
    total weight (argument :: rest) = weight argument + total weight rest := by
  rw [total, List.length_cons, Finset.sum_range_succ', if_pos (active_zero _), Nat.add_comm, total]
  simp only [active_cons hend hvalue, List.getD_cons_succ, List.getD_cons_zero]

theorem total_cons_cons (h : TakesValue argument) (weight : String → Nat) (path : String)
    (rest : List String) :
    total weight (argument :: path :: rest) = weight argument + total weight rest := by
  rw [total, List.length_cons, List.length_cons, Finset.sum_range_succ', Finset.sum_range_succ',
    if_pos (active_zero _), if_neg (not_active_of_takesValue h _), Nat.add_comm, total]
  simp only [active_cons_cons h, List.getD_cons_succ, List.getD_cons_zero, Nat.add_zero]

/-- What an argument adds: its letters are counted in eight bits. -/
def narrowed (argument : String) : Nat := letters argument % 256

def raise (v : UInt8) (n : Nat) : UInt8 := UInt8.ofNat (min 255 (v.toNat + n))

theorem toNat_raise (v : UInt8) (n : Nat) : (raise v n).toNat = min 255 (v.toNat + n) := by
  rw [raise, UInt8.toNat_ofNat_of_lt']
  exact Nat.lt_succ_of_le (Nat.min_le_left _ _)

theorem raise_zero (v : UInt8) : raise v 0 = v := by
  rw [← UInt8.toNat_inj, toNat_raise]
  have := v.toNat_lt
  omega

theorem raise_raise (v : UInt8) (m n : Nat) : raise (raise v m) n = raise v (m + n) := by
  rw [← UInt8.toNat_inj]
  simp only [toNat_raise]
  omega

theorem addVerbosity_eq (v more : UInt8) : addVerbosity v more = raise v more.toNat := by
  have hv := v.toNat_lt
  have hsub : (255 - v).toNat = 255 - v.toNat :=
    UInt8.toNat_sub_of_le _ _ (UInt8.le_iff_toNat_le.2 (Nat.le_of_lt_succ hv))
  rw [← UInt8.toNat_inj, toNat_raise, addVerbosity]
  split
  next h =>
    rw [UInt8.lt_iff_toNat_lt, hsub] at h
    change 255 = _
    omega
  next h =>
    rw [UInt8.lt_iff_toNat_lt, hsub] at h
    rw [UInt8.toNat_add]
    omega

def IsHelp (argument : String) : Prop := argument = "-h" ∨ argument = "--help"

theorem read_induction {motive : List String → Prop} (nil : motive [])
    (ends : ∀ rest, motive ("--" :: rest))
    (help : ∀ argument rest, argument ≠ "--" → IsHelp argument → motive (argument :: rest))
    (missing : ∀ argument, ¬IsHelp argument → TakesValue argument → motive [argument])
    (value : ∀ argument path rest, ¬IsHelp argument → TakesValue argument → motive rest →
      motive (argument :: path :: rest))
    (plain : ∀ argument rest, argument ≠ "--" → ¬IsHelp argument → ¬TakesValue argument →
      motive rest → motive (argument :: rest)) (args : List String) : motive args := by
  have hread : ∀ options : Options, motive args := by
    intro options
    induction options, args using read.induct with
    | case1 => exact nil
    | case2 _ rest => exact ends rest
    | case3 _ argument rest hend hhelp => exact help argument rest hend hhelp
    | case4 _ argument _ hhelp hvalue => exact missing argument hhelp hvalue
    | case5 _ argument _ hhelp hvalue path rest ih => exact value argument path rest hhelp hvalue ih
    | case6 _ rest hend hhelp hvalue ih => exact plain _ rest hend hhelp hvalue ih
    | case7 _ argument rest hend hhelp hvalue _ _ _ ih =>
        exact plain argument rest hend hhelp hvalue ih
    | case8 _ argument rest hend hhelp hvalue _ _ ih =>
        exact plain argument rest hend hhelp hvalue ih
  exact hread ⟨none, 0⟩

theorem read_end (options : Options) (rest : List String) :
    read options ("--" :: rest) = .boot options := by
  rw [read.eq_def]
  exact if_pos rfl

theorem read_help (hend : argument ≠ "--") (h : IsHelp argument) (options : Options)
    (rest : List String) : read options (argument :: rest) = .help := by
  rw [read.eq_def]
  exact (if_neg hend).trans (if_pos h)

theorem read_missing (hhelp : ¬IsHelp argument) (h : TakesValue argument) (options : Options) :
    read options [argument] = .missingPath := by
  rw [read.eq_def]
  exact (if_neg h.ne).trans ((if_neg hhelp).trans (if_pos h))

theorem read_cons_cons (hhelp : ¬IsHelp argument) (h : TakesValue argument) (options : Options)
    (path : String) (rest : List String) :
    read options (argument :: path :: rest) =
      read { options with configPath := some path } rest := by
  rw [read.eq_def]
  exact (if_neg h.ne).trans ((if_neg hhelp).trans (if_pos h))

theorem read_cons (hend : argument ≠ "--") (hhelp : ¬IsHelp argument)
    (hvalue : ¬TakesValue argument) (options : Options) (rest : List String) :
    read options (argument :: rest) =
      read { options with verbosity := raise options.verbosity (narrowed argument) } rest := by
  rw [read.eq_def]
  refine (if_neg hend).trans ((if_neg hhelp).trans ((if_neg hvalue).trans ?_))
  rw [narrowed, letters]
  split
  · rw [addVerbosity_eq]
    rfl
  · rcases countV? argument with _ | count
    · exact congrArg (fun v => read { options with verbosity := v } rest) (raise_zero _).symm
    · simp only [addVerbosity_eq, UInt8.toNat_ofNat', Option.getD_some]

theorem read_of_boot (h : read options args = .boot reached) (v : UInt8) :
    read { options with verbosity := v } args =
      .boot { reached with verbosity := raise v (total narrowed args) } := by
  induction args using read_induction generalizing options v with
  | nil =>
      cases h
      rw [show total narrowed [] = 0 from rfl, raise_zero]
      rfl
  | ends rest =>
      rw [read_end] at h ⊢
      cases h
      rw [total_end, show narrowed "--" = 0 by decide, raise_zero]
  | help argument rest hend hhelp =>
      rw [read_help hend hhelp] at h
      cases h
  | missing argument hhelp hvalue =>
      rw [read_missing hhelp hvalue] at h
      cases h
  | value argument path rest hhelp hvalue ih =>
      have hweight : narrowed argument = 0 := by rcases hvalue with rfl | rfl <;> decide
      rw [read_cons_cons hhelp hvalue] at h ⊢
      rw [total_cons_cons hvalue, hweight, Nat.zero_add]
      exact ih h v
  | plain argument rest hend hhelp hvalue ih =>
      rw [read_cons hend hhelp hvalue] at h ⊢
      rw [total_cons hend hvalue, ← raise_raise]
      exact ih h _

theorem verbosity_of_boot (h : read options args = .boot reached) :
    reached.verbosity = raise options.verbosity (total narrowed args) := by
  have hagain := read_of_boot h options.verbosity
  rw [show read _ args = .boot reached from h] at hagain
  exact congrArg Options.verbosity (Request.boot.inj hagain)

/-- Reading that comes to an end comes through to each argument that is looked at. -/
theorem read_append (hactive : Active (front ++ rest) front.length)
    (h : read options (front ++ rest) = .boot reached) :
    ∃ between, ∀ more, read options (front ++ more) = read between more := by
  induction front using read_induction generalizing options with
  | nil => exact ⟨options, fun _ => rfl⟩
  | ends front => exact absurd hactive (not_active_of_end _ _)
  | help argument front hend hhelp =>
      rw [List.cons_append, read_help hend hhelp] at h
      cases h
  | missing argument hhelp hvalue => exact absurd hactive (not_active_of_takesValue hvalue _)
  | value argument path front hhelp hvalue ih =>
      have hfront := (active_cons_cons hvalue path (front ++ rest) front.length).1 hactive
      simp only [List.cons_append, read_cons_cons hhelp hvalue] at h ⊢
      exact ih hfront h
  | plain argument front hend hhelp hvalue ih =>
      have hfront := (active_cons hend hvalue (front ++ rest) front.length).1 hactive
      simp only [List.cons_append, read_cons hend hhelp hvalue] at h ⊢
      exact ih hfront h

def flag (n : Nat) : String := String.ofList ('-' :: List.replicate n 'v')

theorem flag_not_mem (n : Nat) :
    flag n ∉ ["--", "-h", "--help", "-f", "--config", "--verbose"] := by
  have hother : ∀ name ∈ ["--", "-h", "--help", "-f", "--config", "--verbose"],
      name.toList.tail.all (· = 'v') = false := by decide
  intro hmem
  have hall := hother _ hmem
  rw [flag, String.toList_ofList, List.tail_cons] at hall
  simp at hall

theorem flag_ne_end (n : Nat) : flag n ≠ "--" := fun h => flag_not_mem n (by simp [h])

theorem not_isHelp_flag (n : Nat) : ¬IsHelp (flag n) := by
  rintro (h | h) <;> exact flag_not_mem n (by simp [h])

theorem not_takesValue_flag (n : Nat) : ¬TakesValue (flag n) := by
  rintro (h | h) <;> exact flag_not_mem n (by simp [h])

theorem letters_flag (n : Nat) : letters (flag n) = n := by
  have hverbose : flag n ≠ "--verbose" := fun h => flag_not_mem n (by simp [h])
  rw [letters, if_neg hverbose, countV?, flag, String.toList_ofList]
  cases n with
  | zero => rfl
  | succ n => simp [List.replicate_succ]

theorem read_flag (options : Options) (n : Nat) (rest : List String) :
    read options (flag n :: rest) =
      read { options with verbosity := raise options.verbosity (n % 256) } rest := by
  rw [read_cons (flag_ne_end n) (not_isHelp_flag n) (not_takesValue_flag n), narrowed,
    letters_flag]

theorem read_replicate (options : Options) (n : Nat) (rest : List String) :
    read options (List.replicate n "-v" ++ rest) =
      read { options with verbosity := raise options.verbosity n } rest := by
  induction n generalizing options with
  | zero => rw [raise_zero]; rfl
  | succ n ih =>
      rw [List.replicate_succ, List.cons_append, show "-v" = flag 1 from rfl, read_flag]
      exact (ih _).trans (by rw [raise_raise, Nat.add_comm n])

def levelFor : Nat → Option String
  | 0 => none
  | 1 => some "warn"
  | 2 => some "info"
  | 3 => some "debug"
  | _ => some "trace"

theorem levelOf?_raise (n : Nat) : levelOf? (raise 0 n) = levelFor n := by
  have hmin : levelFor (min 255 n) = levelFor n := by
    rcases Nat.le_total n 255 with h | h
    · rw [Nat.min_eq_right h]
    · obtain ⟨k, rfl⟩ := Nat.exists_eq_add_of_le' h
      rw [Nat.min_eq_left h]
      rfl
  have hnat : (raise 0 n).toNat = min 255 n := by
    rw [toNat_raise, UInt8.toNat_zero, Nat.zero_add]
  rw [← hmin, ← hnat]
  rfl

theorem total_narrowed (h : ∀ i, Active args i → ∀ a ∈ args[i]?, letters a < 256) :
    total narrowed args = total letters args := by
  refine Finset.sum_congr rfl fun i hi => ?_
  split
  next hactive =>
    have hlt : i < args.length := Finset.mem_range.1 hi
    rw [narrowed, Nat.mod_eq_of_lt]
    exact h i hactive _ (by rw [List.getD_eq_getElem _ _ hlt, List.getElem?_eq_getElem hlt]; rfl)
  next => rfl

/-- The level is that of all letters in the arguments that are looked at, each argument counted in
eight bits; so a flag of fewer than 256 letters counts in full, and stands for as many flags of one
letter. Adding a flag keeps the file and never lowers the verbosity. -/
theorem level_of_arguments (h : Request.ofArguments args = .boot options) :
    levelOf? options.verbosity = levelFor (total narrowed args) ∧
      ((∀ i, Active args i → ∀ a ∈ args[i]?, letters a < 256) →
        levelOf? options.verbosity = levelFor (total letters args)) ∧
      (∀ front n back, args = front ++ flag n :: back → Active args front.length →
        Request.ofArguments (front ++ (List.replicate (n % 256) "-v" ++ back)) = .boot options) ∧
      ∀ front n back, args = front ++ back → Active args front.length →
        ∃ raised, options.verbosity ≤ raised ∧
          Request.ofArguments (front ++ flag n :: back) =
            .boot { options with verbosity := raised } := by
  have hlevel : levelOf? options.verbosity = levelFor (total narrowed args) := by
    rw [verbosity_of_boot h, levelOf?_raise]
  refine ⟨hlevel, fun hshort => total_narrowed hshort ▸ hlevel, ?_, ?_⟩
  · rintro front n back rfl hactive
    obtain ⟨between, hfront⟩ := read_append hactive h
    rw [Request.ofArguments, hfront] at h ⊢
    rw [read_replicate, ← read_flag, h]
  · rintro front n back rfl hactive
    obtain ⟨between, hfront⟩ := read_append hactive h
    rw [Request.ofArguments, hfront] at h
    have hraised := read_of_boot h (raise between.verbosity (n % 256))
    refine ⟨_, ?_, (hfront _).trans ((read_flag between n back).trans hraised)⟩
    rw [verbosity_of_boot h, raise_raise, UInt8.le_iff_toNat_le, toNat_raise, toNat_raise]
    omega

theorem level_of_arguments_mixed :
    let args := ["-vv", "-f", "-vvvv", "--verbose", "--", "-v"]
    Request.ofArguments args = .boot ⟨some "-vvvv", 3⟩ ∧ (∀ a ∈ args, letters a < 256) ∧
      total letters args = 3 ∧ levelOf? 3 = levelFor (total letters args) := by
  intro args
  have hboot : Request.ofArguments args = .boot ⟨some "-vvvv", 3⟩ := by decide +kernel
  have hshort : ∀ a ∈ args, letters a < 256 := by decide +kernel
  have htotal : total letters args = 3 := by decide +kernel
  exact ⟨hboot, hshort, htotal, (level_of_arguments hboot).2.1
    fun _ _ a ha => hshort a (List.mem_of_getElem? ha)⟩

theorem long_flag_uncounted :
    ¬∀ args options, Request.ofArguments args = .boot options →
      levelOf? options.verbosity = levelFor (total letters args) := by
  intro h
  have htotal : total letters [flag 256] = 256 := by
    rw [total_cons (flag_ne_end 256) (not_takesValue_flag 256), letters_flag]
    rfl
  have hboot : Request.ofArguments [flag 256] = .boot ⟨none, 0⟩ := read_flag ⟨none, 0⟩ 256 []
  have hlevel := h _ _ hboot
  rw [htotal] at hlevel
  cases hlevel

end BpfBoot.Command
