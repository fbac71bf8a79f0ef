import Mathlib
import BpfBoot.Proofs.Growth

namespace BpfBoot

open Text (Octets)

namespace Path

variable {root p q : Path} {tail : List Name}

theorem namesFrom_append_slash (name : Name) (front back : Octets) :
    namesFrom name (front ++ slash :: back) = namesFrom name front ++ namesFrom [] back := by
  induction front generalizing name with
  | nil => cases name <;> rfl
  | cons b front ih =>
      rw [List.cons_append, namesFrom, namesFrom]
      split
      · split
        · exact ih []
        · rw [ih, List.cons_append]
      · exact ih (b :: name)

theorem names_join (p : Path) (hq : q.isAbsolute = false) :
    (p.join q).names = p.names ++ q.names := by
  rw [join, if_neg (by rw [hq]; exact Bool.false_ne_true)]
  split
  · next hend =>
    rw [Bool.or_eq_true, decide_eq_true_eq] at hend
    rcases hend with hempty | hslash
    · rw [names, names, List.isEmpty_iff.1 hempty]
      rfl
    · obtain ⟨front, hfront⟩ := List.getLast?_eq_some_iff.1 hslash
      rw [names, names, hfront, List.append_assoc, List.singleton_append, namesFrom_append_slash,
        namesFrom_append_slash, namesFrom, if_pos List.isEmpty_nil, List.append_nil]
      rfl
  · exact namesFrom_append_slash [] p.bytes q.bytes

theorem isAbsolute_join (p : Path) (hq : q.isAbsolute = false) :
    (p.join q).isAbsolute = p.isAbsolute := by
  rw [join, if_neg (by rw [hq]; exact Bool.false_ne_true)]
  rcases hp : p.bytes with _ | ⟨b, rest⟩
  · simpa [isAbsolute, hp] using hq
  · split <;> simp [isAbsolute, hp]

theorem endsInSlash_join (p : Path) (hq : q.isAbsolute = false) (hbytes : q.bytes ≠ []) :
    (p.join q).endsInSlash = q.endsInSlash := by
  rw [join, if_neg (by rw [hq]; exact Bool.false_ne_true)]
  obtain ⟨b, rest, hb⟩ := List.exists_cons_of_ne_nil hbytes
  split <;> simp [endsInSlash, hb, List.getLast?_append]

/-- A path that goes on from a root by names of entries alone. -/
structure IsBelow (root : Path) (tail : List Name) (p : Path) : Prop where
  absolute : p.isAbsolute = root.isAbsolute
  names : p.names = root.names ++ tail
  plain : ∀ name ∈ tail, name ≠ dot ∧ name ≠ dotDot

theorem IsBelow.refl (root : Path) : IsBelow root [] root :=
  ⟨rfl, (List.append_nil _).symm, List.forall_mem_nil _⟩

theorem IsBelow.join (h : IsBelow root tail p) (hq : q.isAbsolute = false)
    (hplain : ∀ name ∈ q.names, name ≠ dot ∧ name ≠ dotDot) :
    IsBelow root (tail ++ q.names) (p.join q) := by
  refine ⟨?_, ?_, List.forall_mem_append.2 ⟨h.plain, hplain⟩⟩
  · rw [isAbsolute_join p hq, h.absolute]
  · rw [names_join p hq, h.names, List.append_assoc]

end Path

namespace FileSystem

open BpfBoot.Path (IsBelow)

variable {fs gs hs : FileSystem} {root p q : Path} {place base : Place} {name : Path.Name}
  {names more xs ys : List Path.Name}

theorem walkWith_cons (follow : Place → Path → List Path.Name → Except Errno Place)
    (fs : FileSystem) (place : Place) (name : Path.Name) (names : List Path.Name) :
    walkWith follow fs place (name :: names) =
      if fs.way? place = some .inside then
        if name = Path.dot then walkWith follow fs place names
        else if name = Path.dotDot then walkWith follow fs place.tail names
        else if maxName < name.length then .error .nameTooLong
        else match fs.way? (name :: place) with
          | none => .error .noEntry
          | some (.onward target) => follow place target names
          | some _ => walkWith follow fs (name :: place) names
      else .error .notDirectory := by
  rw [walkWith, way?, way?]
  rcases fs.node? place with _ | _ | _ | _ | _ <;> try rfl
  rcases fs.node? (name :: place) with _ | _ | _ | _ | _ <;> rfl

theorem walk_congr (h : ∀ place, gs.way? place = fs.way? place) (budget : Nat) (place : Place)
    (names : List Path.Name) : gs.walk budget place names = fs.walk budget place names := by
  have hwith {follow follow' : Place → Path → List Path.Name → Except Errno Place}
      (hfollow : ∀ dir target rest, follow dir target rest = follow' dir target rest)
      (place : Place) (names : List Path.Name) :
      walkWith follow gs place names = walkWith follow' fs place names := by
    induction names generalizing place with
    | nil => rfl
    | cons name names ih => simp only [walkWith_cons, h, ih, hfollow]
  induction budget generalizing place names with
  | zero => exact hwith (fun _ _ _ => rfl) place names
  | succ budget ih =>
      refine hwith (fun dir target rest => ?_) place names
      rw [ih]

theorem resolve_congr (h : ∀ place, gs.way? place = fs.way? place) (hdir : gs.workDir = fs.workDir)
    (p : Path) : gs.resolve p = fs.resolve p := by
  rw [resolve, resolve, walk_congr h, hdir]

/-- A path leads where it led, and what is there is what was there. -/
structure Same (p : Path) (fs gs : FileSystem) : Prop where
  resolve : gs.resolve p = fs.resolve p
  node : ∀ {place}, fs.resolve p = .ok place → gs.node? place = fs.node? place

namespace Same

theorem refl (p : Path) (fs : FileSystem) : Same p fs fs := ⟨rfl, fun _ => rfl⟩

theorem trans (h : Same p fs gs) (h' : Same p gs hs) : Same p fs hs :=
  ⟨h'.resolve.trans h.resolve, fun hp => (h'.node (h.resolve.trans hp)).trans (h.node hp)⟩

theorem look (h : Same p fs gs) : gs.look p = fs.look p := by
  rw [FileSystem.look, FileSystem.look, h.resolve]
  rcases hp : fs.resolve p with fault | place
  · rfl
  · simp only [bind, Except.bind, h.node hp]

theorem holds (h : Same p fs gs) : gs.holds p = fs.holds p := by
  rw [FileSystem.holds, FileSystem.holds, h.look]

end Same

def LinkFree (fs : FileSystem) : Prop := ∀ place target, fs.node? place ≠ some (.link target)

namespace LinkFree

theorem of_nodes (h : ∀ entry ∈ fs.nodes, entry.2.way = .inside ∨ entry.2.way = .stop) :
    fs.LinkFree := by
  intro place target hplace
  cases place with
  | nil => cases hplace
  | cons name dir =>
      rcases h _ (Table.mem_of_get? hplace) with hinside | hstop
      · cases hinside
      · cases hstop

theorem way? (h : fs.LinkFree) (place : Place) (target : Path) :
    fs.way? place ≠ some (.onward target) := by
  intro hway
  rw [FileSystem.way?] at hway
  rcases hnode : fs.node? place with _ | _ | _ | target | _ <;> rw [hnode] at hway <;> cases hway
  exact h place target hnode

theorem grows (h : fs.LinkFree) (hg : fs.Grows gs) : gs.LinkFree := by
  intro place target hplace
  have hway : gs.way? place = some (.onward target) := by rw [FileSystem.way?, hplace]; rfl
  rcases hg.adds hway with hold | hinside
  · exact h.way? place target hold
  · cases hinside

theorem walk_cons (h : fs.LinkFree) (budget : Nat) (place : Place) (name : Path.Name)
    (names : List Path.Name) :
    fs.walk budget place (name :: names) =
      if fs.way? place = some .inside then
        if name = Path.dot then fs.walk budget place names
        else if name = Path.dotDot then fs.walk budget place.tail names
        else if maxName < name.length then .error .nameTooLong
        else if fs.way? (name :: place) = none then .error .noEntry
        else fs.walk budget (name :: place) names
      else .error .notDirectory := by
  have hlink := h.way? (name :: place)
  cases budget <;> rw [walk, walkWith_cons] <;>
    rcases hway : fs.way? (name :: place) with _ | _ | target | _ <;> simp_all

theorem walk_append (h : fs.LinkFree) (budget : Nat) (place : Place) (names more : List Path.Name) :
    fs.walk budget place (names ++ more) =
      (fs.walk budget place names).bind fun base => fs.walk budget base more := by
  induction names generalizing place with
  | nil => cases budget <;> rfl
  | cons name names ih =>
      rw [List.cons_append, h.walk_cons, h.walk_cons]
      simp only [ih]
      split_ifs <;> rfl

theorem eq_of_walk (h : fs.LinkFree) (hplain : ∀ name ∈ names, name ≠ Path.dot ∧ name ≠ Path.dotDot)
    {budget : Nat} (hwalk : fs.walk budget base names = .ok place) :
    place = names.reverse ++ base := by
  induction names generalizing base with
  | nil => cases budget <;> exact (Except.ok.inj hwalk).symm
  | cons name names ih =>
      obtain ⟨⟨hdot, hdotDot⟩, hrest⟩ := List.forall_mem_cons.1 hplain
      rw [h.walk_cons, if_neg hdot, if_neg hdotDot] at hwalk
      split_ifs at hwalk
      rw [ih hrest hwalk, List.reverse_cons, List.append_assoc, List.singleton_append]

theorem walk_congr (h : fs.LinkFree) (h' : gs.LinkFree)
    (hplain : ∀ name ∈ names, name ≠ Path.dot ∧ name ≠ Path.dotDot)
    (hway : ∀ zs, zs <+: names → gs.way? (zs.reverse ++ base) = fs.way? (zs.reverse ++ base))
    (budget : Nat) : gs.walk budget base names = fs.walk budget base names := by
  induction names generalizing base with
  | nil => cases budget <;> rfl
  | cons name names ih =>
      obtain ⟨⟨hdot, hdotDot⟩, hrest⟩ := List.forall_mem_cons.1 hplain
      have hhere := hway [] List.nil_prefix
      have hnext := hway [name] (List.cons_prefix_cons.2 ⟨rfl, List.nil_prefix⟩)
      simp only [List.reverse_nil, List.nil_append, List.reverse_singleton,
        List.singleton_append] at hhere hnext
      rw [h.walk_cons, h'.walk_cons, hhere, hnext, if_neg hdot, if_neg hdotDot, if_neg hdot,
        if_neg hdotDot, ih hrest fun zs hzs => ?_]
      -- What is asked for the rest from the next place on is asked here behind the first name.
      have hzs' := hway (name :: zs) (List.cons_prefix_cons.2 ⟨rfl, hzs⟩)
      rwa [List.reverse_cons, List.append_assoc, List.singleton_append] at hzs'

end LinkFree

theorem put_of_node? {node : Node} (hplace : place ≠ []) (h : fs.node? place = some node) :
    fs.put place node = fs := by
  have hnodes : Table.put place node fs.nodes = fs.nodes := by
    obtain ⟨name, dir, rfl⟩ := List.exists_cons_of_ne_nil hplace
    exact Table.put_of_get? h
  unfold put
  split
  · simp only [hnodes]
  · rfl

theorem overwrite_cases (limit : Option Nat) (p : Path) (data : Octets) (fs : FileSystem) :
    (fs.overwrite limit p data).2 = fs ∨
      ∃ place content program count, fs.resolve p = .ok place ∧
        fs.node? place = some (.file content program) ∧ accepted limit data.length = .ok count ∧
        (fs.overwrite limit p data).2 =
          fs.put place (.file (data.take count ++ content.drop count) program) := by
  unfold overwrite
  split
  · exact .inl rfl
  · next place hplace =>
    split
    · next content program hnode =>
      split
      · exact .inl rfl
      · next count hcount => exact .inr ⟨place, content, program, count, hplace, hnode, hcount, rfl⟩
    all_goals exact .inl rfl

theorem node?_put_file {content : Octets} {program : Option Termination}
    (hnode : fs.node? place = some (.file content program)) (node : Node) (q : Place) :
    (fs.put place node).node? q = if q = place then some node else fs.node? q := by
  have hplace : place ≠ [] := by
    rintro rfl
    cases hnode
  exact node?_put hplace (fits_of_node? hnode rfl node) q

theorem way?_overwrite (limit : Option Nat) (p : Path) (data : Octets) (fs : FileSystem)
    (place : Place) : (fs.overwrite limit p data).2.way? place = fs.way? place := by
  obtain h | ⟨_, content, program, count, -, hnode, -, h⟩ := overwrite_cases limit p data fs <;> rw [h]
  rw [way?, node?_put_file hnode]
  split
  · next hplace => rw [hplace, way?, hnode]; rfl
  · rfl

theorem accepted_le {limit : Option Nat} {size count : Nat} (h : accepted limit size = .ok count) :
    count ≤ size := by
  unfold accepted at h
  split at h
  · exact (Except.ok.inj h).ge
  · split_ifs at h <;> cases h
    · exact Nat.zero_le size
    · exact Nat.min_le_left _ _

theorem take_append_drop_of_le {data : Octets} {count : Nat} (h : count ≤ data.length)
    (content : Octets) :
    data.take count ++ (data.take count ++ content.drop count).drop count =
      data.take count ++ content.drop count := by
  rw [List.drop_append_of_le_length (by rw [List.length_take]; omega), List.drop_take, Nat.sub_self,
    List.take_zero, List.nil_append]

theorem overwrite_of_same {limit : Option Nat} {data : Octets}
    (h : Same p (fs.overwrite limit p data).2 gs) :
    gs.overwrite limit p data = ((fs.overwrite limit p data).1, gs) := by
  have hresolve : gs.resolve p = fs.resolve p :=
    h.resolve.trans (resolve_congr (way?_overwrite limit p data fs)
      (grows_overwrite limit p data fs).workDir p)
  rcases hp : fs.resolve p with fault | place
  · simp only [overwrite, hresolve, hp]
  have hnode := h.node (h.resolve.symm.trans (hresolve.trans hp))
  rcases hold : fs.node? place with _ | _ | ⟨content, program⟩ | _ | _ | _ <;>
    simp only [overwrite, hp, hold] at hnode
  on_goal 3 =>
    rcases hcount : accepted limit data.length with code | count <;> rw [hcount] at hnode
    · simp only [overwrite, hresolve, hp, hnode, hold, hcount]
    · have hplace : place ≠ [] := fun hroot => by
        rw [hroot] at hold
        cases hold
      simp only [node?_put_file hold, if_pos] at hnode
      simp only [overwrite, hresolve, hp, hnode, hold, hcount,
        take_append_drop_of_le (accepted_le hcount), put_of_node? hplace hnode]
  all_goals simp only [overwrite, hresolve, hp, hnode, hold]

section Frames

variable (hfree : fs.LinkFree) (hp : IsBelow root xs p) (hq : IsBelow root ys q)
  (hopen : q.endsInSlash = false)

include hfree

theorem LinkFree.walk_of_isBelow (hp : IsBelow root xs p) (budget : Nat) :
    fs.walk budget (startOf p fs.workDir) p.names =
      (fs.walk budget (startOf root fs.workDir) root.names).bind fun base =>
        fs.walk budget base xs := by
  rw [startOf, hp.absolute, hp.names, hfree.walk_append]
  rfl

theorem LinkFree.place_of_resolve (hq : IsBelow root ys q) (hopen : q.endsInSlash = false)
    (hplace : fs.resolve q = .ok place) :
    ∃ base, fs.walk maxLinks (startOf root fs.workDir) root.names = .ok base ∧
      place = ys.reverse ++ base := by
  obtain ⟨-, hwalk⟩ := resolve_eq_ok_iff.1 hplace
  rw [← walk_eq_ok_iff, steps, hopen, if_neg Bool.false_ne_true, hfree.walk_of_isBelow hq] at hwalk
  rcases hbase : fs.walk maxLinks (startOf root fs.workDir) root.names with code | base <;>
    rw [hbase] at hwalk
  · cases hwalk
  · exact ⟨base, rfl, hfree.eq_of_walk hq.plain hwalk⟩

theorem LinkFree.place_of_resolveParent (hp : IsBelow root xs p) (hxs : xs ≠ [])
    (hparent : fs.resolveParent p = .ok (place, some name)) :
    ∃ base, fs.walk maxLinks (startOf root fs.workDir) root.names = .ok base ∧
      name :: place = xs.reverse ++ base := by
  obtain ⟨front, last, rfl⟩ := (List.eq_nil_or_concat' xs).resolve_left hxs
  obtain ⟨-, ⟨-, -, hnone⟩ | ⟨other, hlast, hwalk, -, hname⟩⟩ := resolveParent_eq_ok_iff.1 hparent
  · cases hnone
  rw [hp.names, ← List.append_assoc, List.getLast?_concat] at hlast
  cases hlast
  split_ifs at hname
  obtain rfl := Option.some.inj hname
  rw [← walk_eq_ok_iff, startOf, hp.absolute, hp.names, ← List.append_assoc, List.dropLast_concat,
    ← startOf, hfree.walk_append] at hwalk
  rcases hbase : fs.walk maxLinks (startOf root fs.workDir) root.names with code | base <;>
    rw [hbase] at hwalk
  · cases hwalk
  · refine ⟨base, rfl, ?_⟩
    rw [hfree.eq_of_walk (List.forall_mem_append.1 hp.plain).1 hwalk, List.reverse_append,
      List.reverse_singleton, List.append_assoc, List.singleton_append]

include hq hopen

theorem LinkFree.same_of_grows (hgrows : fs.Grows gs)
    (hbase : fs.walk maxLinks (startOf root fs.workDir) root.names = .ok base)
    (hway : ∀ zs, zs <+: ys → gs.node? (zs.reverse ++ base) = fs.node? (zs.reverse ++ base)) :
    Same q fs gs := by
  have hbase' : gs.walk maxLinks (startOf root gs.workDir) root.names = .ok base := by
    rw [hgrows.workDir]
    exact (hgrows.leads (walk_eq_ok_iff.1 hbase)).walk_eq
  refine ⟨?_, fun {place} hplace => ?_⟩
  · have hwalk : gs.walk maxLinks base ys = fs.walk maxLinks base ys :=
      hfree.walk_congr (hfree.grows hgrows) hq.plain
        (fun zs hzs => by rw [FileSystem.way?, FileSystem.way?, hway zs hzs]) maxLinks
    rw [resolve, resolve, steps, hopen, if_neg Bool.false_ne_true,
      (hfree.grows hgrows).walk_of_isBelow hq, hfree.walk_of_isBelow hq, hbase, hbase']
    simp only [Except.bind, hwalk]
  · obtain ⟨base', hwalk, rfl⟩ := hfree.place_of_resolve hq hopen hplace
    obtain rfl : base = base' := Except.ok.inj (hbase.symm.trans hwalk)
    exact hway ys List.prefix_rfl

include hp

/-- A write at one path is not seen at another one. -/
theorem LinkFree.same_overwrite (hslash : p.endsInSlash = false) (hne : xs ≠ ys)
    (limit : Option Nat) (data : Octets) : Same q fs (fs.overwrite limit p data).2 := by
  refine ⟨resolve_congr (way?_overwrite limit p data fs) (grows_overwrite limit p data fs).workDir q,
    fun {place} hplace => ?_⟩
  obtain h | ⟨written, content, program, count, hwritten, hnode, -, h⟩ :=
    overwrite_cases limit p data fs <;> rw [h]
  obtain ⟨base, hbase, rfl⟩ := hfree.place_of_resolve hq hopen hplace
  obtain ⟨base', hbase', rfl⟩ := hfree.place_of_resolve hp hslash hwritten
  obtain rfl : base = base' := Except.ok.inj (hbase.symm.trans hbase')
  rw [node?_put_file hnode, if_neg]
  intro hsame
  exact hne (List.reverse_injective (List.append_cancel_right hsame)).symm

/-- A directory that is made at one path is not seen at another one that does not lead through it.
-/
theorem LinkFree.same_makeDirectory (hxs : xs ≠ []) (hne : ¬xs <+: ys) (umask mode : Mode) :
    Same q fs (fs.makeDirectory umask mode p).2 := by
  obtain ⟨dir, name, hparent, -, hnone, h⟩ | ⟨fault, h, -⟩ := makeDirectory_cases umask mode p fs <;>
    rw [h]
  · obtain ⟨base, hbase, hplace⟩ := hfree.place_of_resolveParent hp hxs hparent
    obtain ⟨old, hdir⟩ := node?_of_resolveParent hparent
    refine hfree.same_of_grows hq hopen (grows_put_directory hnone _) hbase fun zs hzs => ?_
    rw [node?_put (List.cons_ne_nil name dir) (fits_directory hdir name _), hplace, if_neg]
    intro hsame
    rw [List.reverse_injective (List.append_cancel_right hsame)] at hzs
    exact hne hzs
  · exact .refl q fs

end Frames

end FileSystem

end BpfBoot
