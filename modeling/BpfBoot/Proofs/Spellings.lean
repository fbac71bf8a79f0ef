import BpfBoot.Proofs.Below
import BpfBoot.Proofs.PlatformCopy

namespace BpfBoot

open Text (Octets)

namespace Path

variable {p q : Path} {front back rest : Octets} {name : Name}

/-- A longer spelling that names the same path: a slash beside a slash, a dot between slashes, a
slash at the end, or a dot behind it. -/
inductive Respells : Path → Path → Prop
  | slash (front back : Octets) :
      Respells ⟨front ++ slash :: back⟩ ⟨front ++ slash :: slash :: back⟩
  | dot (front back : Octets) :
      Respells ⟨front ++ slash :: back⟩ ⟨front ++ slash :: (dot ++ slash :: back)⟩
  | endSlash {front : Octets} (h : front ≠ []) : Respells ⟨front⟩ ⟨front ++ [slash]⟩
  | endDot (front : Octets) : Respells ⟨front ++ [slash]⟩ ⟨front ++ slash :: dot⟩

def Respelled : Path → Path → Prop := Relation.EqvGen Respells

def Tidy (p : Path) : Prop := ∀ q, ¬Respells q p

theorem Respells.length_lt (h : Respells p q) : p.bytes.length < q.bytes.length := by
  cases h <;> simp [Path.dot]

theorem namesFrom_of_not_mem {read : Name} (h : slash ∉ name) (hne : read ++ name ≠ []) :
    namesFrom read name = [read.reverse ++ name] := by
  induction name generalizing read with
  | nil =>
      rw [List.append_nil] at hne
      rw [namesFrom, if_neg (by rw [List.isEmpty_iff]; exact hne), List.append_nil]
  | cons b name ih =>
      obtain ⟨hb, hname⟩ := not_or.1 (List.mem_cons.not.1 h)
      rw [namesFrom, if_neg (Ne.symm hb), ih hname (List.cons_ne_nil b _), List.reverse_cons,
        List.append_assoc]
      rfl

theorem exists_cut (bytes : Octets) :
    ∃ name : Name, slash ∉ name ∧ (bytes = name ∨ ∃ rest, bytes = name ++ slash :: rest) := by
  induction bytes with
  | nil => exact ⟨[], List.not_mem_nil, .inl rfl⟩
  | cons b bytes ih =>
      by_cases hb : b = slash
      · exact ⟨[], List.not_mem_nil, .inr ⟨bytes, by rw [hb]; rfl⟩⟩
      · obtain ⟨name, hname, hcut⟩ := ih
        refine ⟨b :: name, List.not_mem_cons_of_ne_of_not_mem (Ne.symm hb) hname, ?_⟩
        rcases hcut with rfl | ⟨rest, rfl⟩
        · exact .inl rfl
        · exact .inr ⟨rest, rfl⟩

theorem components_of_names_eq (habsolute : p.isAbsolute = q.isAbsolute)
    (hnames : p.names = q.names) : p.components = q.components := by
  rw [components, components, habsolute, hnames]

theorem components_of_dot (xs ys : List Name) (habsolute : p.isAbsolute = q.isAbsolute)
    (hp : p.names = xs ++ ys) (hq : q.names = xs ++ dot :: ys)
    (hfirst : p.isAbsolute = false → xs ≠ []) : p.components = q.components := by
  rw [components, components, ← habsolute, hp, hq]
  cases hrelative : p.isAbsolute with
  | true => simp
  | false =>
      obtain ⟨first, xs, rfl⟩ := List.exists_cons_of_ne_nil (hfirst hrelative)
      simp

theorem isAbsolute_append_slash (front back more : Octets) :
    (⟨front ++ slash :: back⟩ : Path).isAbsolute =
      (⟨front ++ slash :: more⟩ : Path).isAbsolute := by
  cases front <;> rfl

theorem names_ne_nil_of_append (h : (⟨front ++ slash :: back⟩ : Path).isAbsolute = false) :
    (⟨front⟩ : Path).names ≠ [] := by
  rcases front with _ | ⟨b, front⟩
  · cases h
  · intro hnames
    have habsolute := isAbsolute_of_names_eq_nil rfl hnames
    exact Bool.false_ne_true (h.symm.trans habsolute)

theorem Respells.components (h : Respells p q) : p.components = q.components := by
  cases h with
  | slash front back =>
      refine components_of_names_eq (isAbsolute_append_slash _ _ _) ?_
      rw [names, names, namesFrom_append_slash, namesFrom_append_slash]
      rfl
  | dot front back =>
      refine components_of_dot (⟨front⟩ : Path).names (namesFrom [] back)
        (isAbsolute_append_slash _ _ _) ?_ ?_ names_ne_nil_of_append
      · exact namesFrom_append_slash [] front back
      · rw [names, namesFrom_append_slash, namesFrom_append_slash]
        rfl
  | @endSlash front h =>
      refine components_of_names_eq ?_ ?_
      · obtain ⟨b, front, rfl⟩ := List.exists_cons_of_ne_nil h
        rfl
      · rw [names, names, namesFrom_append_slash]
        exact (List.append_nil _).symm
  | endDot front =>
      refine components_of_dot (⟨front⟩ : Path).names [] (isAbsolute_append_slash _ _ _) ?_ ?_
        names_ne_nil_of_append
      · exact namesFrom_append_slash [] front []
      · exact namesFrom_append_slash [] front Path.dot

theorem Respelled.components (h : Respelled p q) : p.components = q.components := by
  induction h with
  | rel p q h => exact h.components
  | refl p => rfl
  | symm p q _ ih => exact ih.symm
  | trans p q r _ _ ih ih' => exact ih.trans ih'

def slashed (names : List Name) : Octets := names.flatMap (slash :: ·)

/-- The shortest spelling of a path with these components. -/
def shortest : Bool × List Name → Octets
  | (true, []) => [slash]
  | (false, first :: rest) => first ++ slashed rest
  | (_, names) => slashed names

theorem slashed_of_tidy (h : Tidy ⟨front ++ slash :: rest⟩) (hne : front ≠ [] ∨ rest ≠ []) :
    slashed ((namesFrom [] rest).filter (· ≠ dot)) = slash :: rest := by
  induction hlength : rest.length using Nat.strong_induction_on generalizing front rest with
  | _ length ih =>
    obtain ⟨name, hname, hcut⟩ := exists_cut rest
    -- The first name behind the slash is not empty and no dot, for each of these can be left out.
    by_cases hempty : name = []
    · subst hempty
      rcases hcut with rfl | ⟨more, rfl⟩
      · exact absurd (.endSlash (hne.resolve_right (fun h => h rfl))) (h ⟨front⟩)
      · exact absurd (.slash front more) (h ⟨front ++ slash :: more⟩)
    by_cases hdot : name = dot
    · subst hdot
      rcases hcut with rfl | ⟨more, rfl⟩
      · exact absurd (.endDot front) (h ⟨front ++ [slash]⟩)
      · exact absurd (.dot front more) (h ⟨front ++ slash :: more⟩)
    have hfirst : namesFrom [] name = [name] := namesFrom_of_not_mem hname hempty
    have hkept : [name].filter (· ≠ dot) = [name] := by simp [hdot]
    rcases hcut with rfl | ⟨more, rfl⟩
    · rw [hfirst, hkept, slashed, List.flatMap_singleton]
    · have htidy : Tidy ⟨(front ++ slash :: name) ++ slash :: more⟩ := by
        rwa [List.append_assoc, List.cons_append]
      have hmore := ih more.length (by simp [← hlength]; omega) htidy (.inl (by simp)) rfl
      rw [namesFrom_append_slash, hfirst, List.filter_append, hkept, slashed, List.flatMap_append,
        List.flatMap_singleton, ← slashed, hmore]
      rfl

theorem components_of_slash (rest : Octets) :
    (⟨slash :: rest⟩ : Path).components = (true, (namesFrom [] rest).filter (· ≠ dot)) := rfl

theorem components_of_first (hname : slash ∉ name) (hempty : name ≠ []) {xs : List Name}
    (hnames : (⟨name ++ rest⟩ : Path).names = name :: xs) :
    (⟨name ++ rest⟩ : Path).components = (false, name :: xs.filter (· ≠ dot)) := by
  have hrelative : (⟨name ++ rest⟩ : Path).isAbsolute = false := by
    obtain ⟨b, name, rfl⟩ := List.exists_cons_of_ne_nil hempty
    exact decide_eq_false fun heq => hname (Option.some.inj heq ▸ List.mem_cons_self)
  rw [components, hrelative, hnames]

theorem bytes_of_tidy (h : Tidy p) : p.bytes = shortest p.components := by
  obtain ⟨bytes⟩ := p
  obtain ⟨name, hname, hcut⟩ := exists_cut bytes
  by_cases hempty : name = []
  · subst hempty
    rcases hcut with rfl | ⟨rest, rfl⟩
    · rfl
    by_cases hrest : rest = []
    · rw [hrest]
      rfl
    · have htidy : Tidy ⟨[] ++ slash :: rest⟩ := h
      have hslashed := slashed_of_tidy htidy (.inr hrest)
      rw [List.nil_append, components_of_slash]
      rcases hkept : (namesFrom [] rest).filter (· ≠ dot) with _ | ⟨first, more⟩
      · rw [hkept] at hslashed
        cases hslashed
      · rw [← hslashed, hkept]
        rfl
  · have hfirst : namesFrom [] name = [name] := namesFrom_of_not_mem hname hempty
    rcases hcut with rfl | ⟨rest, rfl⟩
    · have halone : (⟨bytes ++ []⟩ : Path).names = bytes :: [] := by
        rw [names, List.append_nil, hfirst]
      have hcomponents := components_of_first hname hempty halone
      rw [List.append_nil] at hcomponents
      rw [hcomponents]
      exact (List.append_nil _).symm
    · have hnames : (⟨name ++ slash :: rest⟩ : Path).names = name :: namesFrom [] rest := by
        rw [names, namesFrom_append_slash, hfirst]
        rfl
      rw [components_of_first hname hempty hnames, shortest, slashed_of_tidy h (.inl hempty)]

/-- Every spelling is the shortest one, spelled longer again and again. -/
theorem reflTransGen_shortest (p : Path) :
    Relation.ReflTransGen Respells ⟨shortest p.components⟩ p := by
  induction hlength : p.bytes.length using Nat.strong_induction_on generalizing p with
  | _ length ih =>
    by_cases htidy : Tidy p
    · rw [← bytes_of_tidy htidy]
    · obtain ⟨q, hq⟩ := not_forall_not.1 htidy
      have hshorter := ih q.bytes.length (hlength ▸ hq.length_lt) q rfl
      rw [← hq.components]
      exact hshorter.tail hq

theorem length_shortest_le (p : Path) : (shortest p.components).length ≤ p.bytes.length := by
  have hlonger {q : Path} (h : Relation.ReflTransGen Respells ⟨shortest p.components⟩ q) :
      (shortest p.components).length ≤ q.bytes.length := by
    induction h with
    | refl => exact Nat.le_refl _
    | tail _ hstep ih => exact ih.trans hstep.length_lt.le
  exact hlonger (reflTransGen_shortest p)

theorem tidy_iff : Tidy p ↔ p.bytes = shortest p.components := by
  refine ⟨bytes_of_tidy, fun hbytes q hq => ?_⟩
  have hle := length_shortest_le q
  rw [hq.components, ← hbytes] at hle
  exact Nat.not_le_of_lt hq.length_lt hle

instance : DecidablePred Tidy := fun _ => decidable_of_iff _ tidy_iff.symm

theorem same_iff_respelled : p.same q = true ↔ Respelled p q := by
  rw [same, decide_eq_true_eq]
  refine ⟨fun h => ?_, Respelled.components⟩
  have hp := Relation.EqvGen.reflTransGen_le_eqvGen _ _ _ (reflTransGen_shortest p)
  have hq := Relation.EqvGen.reflTransGen_le_eqvGen _ _ _ (reflTransGen_shortest q)
  rw [h] at hp
  exact .trans _ _ _ (.symm _ _ hp) hq

instance (p q : Path) : Decidable (Respelled p q) := decidable_of_iff _ same_iff_respelled

/-- A path has one tidy spelling. -/
theorem respelled_iff_of_tidy (hp : Tidy p) (hq : Tidy q) : Respelled p q ↔ p = q := by
  constructor
  · intro h
    have hbytes : p.bytes = q.bytes := by
      rw [bytes_of_tidy hp, bytes_of_tidy hq, h.components]
    exact congrArg Path.mk hbytes
  · rintro rfl
    exact .refl p

end Path

open BpfBoot.Path (Respelled Tidy)

theorem Variant.ofArgv0_eq (argv0 : String) (layout : Layout) :
    ofArgv0 argv0 layout =
      if Respelled (.ofString argv0) layout.platformEntry then platform
      else if Respelled (.ofString argv0) layout.moduleEntry then module
      else unknown := by
  simp only [ofArgv0, Path.same_iff_respelled]

namespace Pipeline

variable {σ : Type}

/-- A copy is told by the path it is started under however that is spelled, and by its very spelling
where no spelling has anything that does not count. A copy that is told to be neither of the two
fails at once, and only the log shows that it ran. -/
theorem variant_of_spelling (config : Config) (facts : Facts) (given : Collaborators σ)
    (argv0 : String) (machine : Machine) (outside : σ) :
    let path := Path.ofString argv0
    let layout := config.layout
    let variant := Variant.ofArgv0 argv0 layout
    let s : BootState σ := .start machine outside
    let ended := run config facts given argv0 s
    (variant = .platform ↔ Respelled path layout.platformEntry) ∧
      (variant = .module ↔
        ¬Respelled path layout.platformEntry ∧ Respelled path layout.moduleEntry) ∧
      (variant = .unknown ↔
        ¬Respelled path layout.platformEntry ∧ ¬Respelled path layout.moduleEntry) ∧
      (Tidy path → Tidy layout.platformEntry → Tidy layout.moduleEntry →
        variant = if path = layout.platformEntry then .platform
          else if path = layout.moduleEntry then .module else .unknown) ∧
      (variant = .unknown → ended.1 = .exit 1 ∧ ¬Reaches config facts given argv0 s .gate ∧
        ended.2.effects = [] ∧ ended.2.machine = machine ∧ ended.2.outside = outside) := by
  intro path layout variant s ended
  have hvariant : variant = if Respelled path layout.platformEntry then .platform
      else if Respelled path layout.moduleEntry then .module else .unknown :=
    Variant.ofArgv0_eq argv0 layout
  refine ⟨?_, ?_, ?_, fun hpath hplatform hmodule => ?_, fun hunknown => ?_⟩
  · rw [hvariant]
    split_ifs <;> simp [*]
  · rw [hvariant]
    split_ifs <;> simp [*]
  · rw [hvariant]
    split_ifs <;> simp [*]
  · simp only [hvariant, Path.respelled_iff_of_tidy hpath hplatform,
      Path.respelled_iff_of_tidy hpath hmodule]
  · have hcopy : variant ≠ .module := by
      rw [hunknown]
      decide
    have halike : ended.2.Alike Eq s := alike_of_ne_module config facts given argv0 s hcopy
    refine ⟨?_, not_reaches_of_ne_module hcopy (by decide), halike.effects, halike.machine,
      halike.outside⟩
    have hcourse := course_of_target config facts given argv0 s
    have hended : ended = outcome config ((target config facts given argv0).runOn s) := rfl
    rcases hrun : (target config facts given argv0).runOn s with ⟨r, t⟩
    rw [hrun] at hcourse hended
    rcases hcourse.of_ne_module hcopy with ⟨-, hplatform⟩ | ⟨e, rfl, hcode⟩
    · cases hunknown.symm.trans hplatform
    · rw [hended]
      exact congrArg Outcome.exit hcode

theorem variant_of_spelling_stranger :
    let config := Config.rootedAt "r"
    let argv0 := "r/system/bin/netbpfload2"
    Tidy (.ofString argv0) ∧ Tidy config.layout.platformEntry ∧ Tidy config.layout.moduleEntry ∧
      Variant.ofArgv0 argv0 config.layout = .unknown ∧
      (run config settledFacts willing argv0 (.start doubled ())).1 = .exit 1 := by
  intro config argv0
  have hpath : Tidy (.ofString argv0) := by decide +kernel
  have hplatform : Tidy config.layout.platformEntry := by decide +kernel
  have hmodule : Tidy config.layout.moduleEntry := by decide +kernel
  have hne : Path.ofString argv0 ≠ config.layout.platformEntry ∧
      Path.ofString argv0 ≠ config.layout.moduleEntry := by decide +kernel
  obtain ⟨-, -, -, hexact, hstops⟩ :=
    variant_of_spelling config settledFacts willing argv0 doubled ()
  have hunknown := hexact hpath hplatform hmodule
  rw [if_neg hne.1, if_neg hne.2] at hunknown
  exact ⟨hpath, hplatform, hmodule, hunknown, (hstops hunknown).1⟩

theorem doubled_slash_is_platform :
    ¬∀ argv0 : String, Variant.ofArgv0 argv0 (Config.rootedAt "/").layout = .platform ↔
      Path.ofString argv0 = (Config.rootedAt "/").layout.platformEntry := by
  intro h
  have hsame := (h "/system//bin/netbpfload").1 (by decide +kernel)
  exact absurd hsame (by decide +kernel)

end Pipeline

end BpfBoot
