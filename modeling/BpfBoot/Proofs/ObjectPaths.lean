import BpfBoot.Proofs.Below
import BpfBoot.Proofs.ListingOrder

namespace BpfBoot

open Text (Octets)

namespace Path

variable {p q q' dir dir' : Path}

theorem join_right_inj (hq : q.isAbsolute = false) (hq' : q'.isAbsolute = false)
    (h : p.join q = p.join q') : q = q' := by
  obtain ⟨bytes⟩ := q
  obtain ⟨bytes'⟩ := q'
  rw [join, join, hq, hq'] at h
  simp only [Bool.false_eq_true, if_false] at h
  split at h
  · rw [List.append_cancel_left (Path.mk.inj h)]
  · rw [(List.cons.inj (List.append_cancel_left (Path.mk.inj h))).2]

def IsIn (p dir : Path) : Prop := ∃ name : Name, slash ∉ name ∧ p.bytes = dir.bytes ++ name

theorem eq_nil_of_endsInSlash {front back : Octets} (h : (⟨front ++ back⟩ : Path).endsInSlash = true)
    (hback : slash ∉ back) : back = [] := by
  rcases List.eq_nil_or_concat back with rfl | ⟨before, last, rfl⟩
  · rfl
  · simp only [endsInSlash, List.concat_eq_append, ← List.append_assoc, List.getLast?_concat,
      decide_eq_true_eq, Option.some.injEq] at h
    simp [h] at hback

theorem append_inj_of_endsInSlash {name name' : Name} (hdir : dir.endsInSlash = true)
    (hdir' : dir'.endsInSlash = true) (hname : slash ∉ name) (hname' : slash ∉ name')
    (h : dir.bytes ++ name = dir'.bytes ++ name') : dir = dir' ∧ name = name' := by
  obtain ⟨bytes⟩ := dir
  obtain ⟨bytes'⟩ := dir'
  -- What one of the two has more than the other would be part of a name, and end in a slash.
  rcases List.append_eq_append_iff.1 h with ⟨more, rfl, rfl⟩ | ⟨more, rfl, rfl⟩
  · obtain rfl := eq_nil_of_endsInSlash hdir' (fun hmem => hname (List.mem_append_left name' hmem))
    simp
  · obtain rfl := eq_nil_of_endsInSlash hdir (fun hmem => hname' (List.mem_append_left name hmem))
    simp

theorem IsIn.unique (hdir : dir.endsInSlash = true) (hdir' : dir'.endsInSlash = true)
    (h : p.IsIn dir) (h' : p.IsIn dir') : dir = dir' := by
  obtain ⟨name, hname, hp⟩ := h
  obtain ⟨name', hname', hp'⟩ := h'
  exact (append_inj_of_endsInSlash hdir hdir' hname hname' (hp.symm.trans hp')).1

theorem bytes_join_name {name : Name} (hdir : dir.endsInSlash = true) (hname : slash ∉ name) :
    (dir.join ⟨name⟩).bytes = dir.bytes ++ name := by
  have hrelative : (⟨name⟩ : Path).isAbsolute = false := by
    simp only [isAbsolute, decide_eq_false_iff_not]
    exact fun hhead => hname (List.mem_of_head? hhead)
  have hlast : dir.bytes.getLast? = some slash := of_decide_eq_true hdir
  rw [join, hrelative, hlast]
  simp

end Path

namespace Location

/-- Locations that can be told apart by their pin directories as well as by the paths of what is
found in them. -/
structure Separate (locations : List Location) : Prop where
  endsInSlash : ∀ location ∈ locations, location.dir.endsInSlash = true
  dirs : (locations.map Location.dir).Nodup
  pins : (locations.map Location.pin).Nodup

theorem separate_ofMount (mount : Path) : Separate (ofMount mount) := by
  have hrows : ∀ row ∈ table, (Path.ofString row.1).isAbsolute = false ∧
      (Path.ofString row.1).bytes ≠ [] ∧ (Path.ofString row.1).endsInSlash = true := by
    decide
  have hdistinct : (table.map fun row => Path.ofString row.1).Nodup := by decide
  refine ⟨?_, ?_, ?_⟩
  · intro location hlocation
    obtain ⟨row, hrow, rfl⟩ := List.mem_map.1 hlocation
    obtain ⟨hrelative, hbytes, hend⟩ := hrows row hrow
    exact (Path.endsInSlash_join mount hrelative hbytes).trans hend
  · rw [ofMount, List.map_map]
    refine List.Nodup.map_on ?_ (List.Nodup.of_map _ hdistinct)
    intro row hrow row' hrow' heq
    have hsame := Path.join_right_inj (hrows row hrow).1 (hrows row' hrow').1 heq
    exact List.inj_on_of_nodup_map hdistinct hrow hrow' hsame
  · rw [ofMount, List.map_map]
    change (table.map Prod.snd).Nodup
    decide

section

variable {locations : List Location} {a b : Location}

theorem Separate.eq_of_dir (h : Separate locations) (ha : a ∈ locations) (hb : b ∈ locations)
    (hdir : a.dir = b.dir) : a = b := List.inj_on_of_nodup_map h.dirs ha hb hdir

theorem Separate.eq_of_pin (h : Separate locations) (ha : a ∈ locations) (hb : b ∈ locations)
    (hpin : a.pin = b.pin) : a = b := List.inj_on_of_nodup_map h.pins ha hb hpin

theorem Separate.eq_of_isIn (h : Separate locations) (ha : a ∈ locations) (hb : b ∈ locations)
    {p : Path} (hpa : p.IsIn a.dir) (hpb : p.IsIn b.dir) : a = b :=
  h.eq_of_dir ha hb (hpa.unique (h.endsInSlash a ha) (h.endsInSlash b hb) hpb)

end

end Location

namespace Load

variable {σ : Type} {loader : Loader σ} {locations : List Location} {w : Machine × σ}

/-- The entries that a sweep comes upon have names as file systems hold them, without a slash. -/
def FindsNames (loader : Loader σ) (locations : List Location) (w : Machine × σ) : Prop :=
  ∀ index location, locations[index]? = some location →
    let before := tour loader (locations.take index) w
    (∀ u ∈ before.1, ¬u.IsCritical) →
      ∀ name ∈ entriesIn before.2.1.files location.dir, Path.slash ∉ name

theorem objectsIn_eq_filter_entriesIn (fs : FileSystem) (dir : Path) :
    objectsIn fs dir = (entriesIn fs dir).filter rawSuffix.isSuffixOf := by
  rcases hlist : fs.list dir with fault | names
  · rw [objectsIn, entriesIn, hlist]
    rfl
  · rw [entriesIn, hlist]
    exact objectsIn_eq_filter hlist

theorem nodup_entriesIn (fs : FileSystem) (dir : Path) : (entriesIn fs dir).Nodup := by
  rcases hlist : fs.list dir with fault | names
  · rw [entriesIn, hlist]
    exact List.nodup_nil
  · rw [entriesIn, hlist]
    exact nodup_of_list hlist

structure Visit.IsDirect (v : Visit) : Prop where
  nodup : (v.calls.map Prod.fst).Nodup
  isIn : ∀ call ∈ v.calls, call.1.IsIn v.location.dir

theorem isDirect_visit {location : Location} (hdir : location.dir.endsInSlash = true)
    (hnames : ∀ name ∈ entriesIn w.1.files location.dir, Path.slash ∉ name) :
    (visit loader location w).1.IsDirect := by
  have hobjects := objectsIn_eq_filter_entriesIn w.1.files location.dir
  have hplain : ∀ name ∈ objectsIn w.1.files location.dir, Path.slash ∉ name := by
    intro name hname
    rw [hobjects] at hname
    exact hnames name (List.mem_of_mem_filter hname)
  refine ⟨?_, ?_⟩
  · have hnodup : (objectsIn w.1.files location.dir).Nodup := by
      rw [hobjects]
      exact (nodup_entriesIn _ _).filter _
    rw [calls_visit, List.map_map]
    refine hnodup.map_on ?_
    intro name hname name' hname' heq
    have hbytes := congrArg Path.bytes heq
    simp only [Function.comp_apply, Path.bytes_join_name hdir (hplain name hname),
      Path.bytes_join_name hdir (hplain name' hname')] at hbytes
    exact List.append_cancel_left hbytes
  · intro call hcall
    rw [calls_visit] at hcall
    obtain ⟨name, hname, rfl⟩ := List.mem_map.1 hcall
    exact ⟨name, hplain name hname, Path.bytes_join_name hdir (hplain name hname)⟩

theorem snd_of_mem_calls {v : Visit} {call : Call} (h : call ∈ v.calls) : call.2 = v.location := by
  obtain ⟨a, -, rfl⟩ := List.mem_map.1 h
  rfl

theorem nodup_loads {vs : List Visit} (hseparate : Location.Separate locations)
    (hvs : vs.map Visit.location <+: locations) (hdirect : ∀ v ∈ vs, v.IsDirect) :
    ((loads vs).map Prod.fst).Nodup := by
  have hmem (v : Visit) (hv : v ∈ vs) : v.location ∈ locations :=
    hvs.subset (List.mem_map_of_mem hv)
  have hpairwise : vs.Pairwise fun v u => v.location ≠ u.location := by
    have hnodup : (vs.map Visit.location).Nodup :=
      (List.Nodup.of_map _ hseparate.dirs).sublist hvs.sublist
    exact List.pairwise_map.1 hnodup
  rw [loads, List.map_flatMap, List.nodup_flatMap]
  refine ⟨fun v hv => (hdirect v hv).nodup, hpairwise.imp_of_mem ?_⟩
  intro v u hv hu hne
  rw [Function.onFun, List.disjoint_left]
  intro p hpv hpu
  obtain ⟨call, hcall, rfl⟩ := List.mem_map.1 hpv
  obtain ⟨call', hcall', heq⟩ := List.mem_map.1 hpu
  have hin := (hdirect u hu).isIn call' hcall'
  rw [heq] at hin
  exact hne (hseparate.eq_of_isIn (hmem v hv) (hmem u hu) ((hdirect v hv).isIn call hcall) hin)

/-- How far a sweep comes: its calls are those of a tour of the first locations, of all of them if
it ends well, and only the last of these can have failed critically. -/
theorem runOn_loadAll_loads (loader : Loader σ) (stall : Stall σ) (seconds : Nat)
    (locations : List Location) (s : BootState σ) :
    let w := (s.machine, s.outside)
    let ended := (loadAll loader stall seconds locations).runOn s
    ∃ (count : Nat) (waits : List Effect), (waits = [] ∨ waits = [.stall seconds]) ∧
      ended.2.effects = s.effects ++
        (loads (tour loader (locations.take count) w).1).map (fun call => .load call.1 call.2) ++
        waits ∧
      (∀ index < count, ∀ u ∈ (tour loader (locations.take index) w).1, ¬u.IsCritical) ∧
      (ended.1 = .ok () → locations.take count = locations) := by
  intro w ended
  obtain ⟨hnone, log, h⟩ | ⟨index, v, errno, log, hv, hbefore, herrno, h⟩ :=
    runOn_loadAll_tour loader stall seconds locations s
  · refine ⟨locations.length, [], .inl rfl, ?_, ?_, fun _ => List.take_length⟩
    · rw [show ended = _ from h, List.take_length, effects_eq_map, List.append_nil]
    · intro index _ u hu
      rw [tour_take] at hu
      exact hnone u (List.mem_of_mem_take hu)
  · refine ⟨index + 1, [.stall seconds], .inr rfl, ?_, ?_, fun hok => ?_⟩
    · rw [show ended = _ from h, effects_eq_map, tour_take]
    · intro other hother u hu
      rw [tour_take] at hu
      exact hbefore u ((List.take_subset_take_left _ (by omega)) hu)
    · rw [show ended = _ from h] at hok
      cases hok

theorem isDirect_of_mem_tour (hseparate : Location.Separate locations)
    (hnames : FindsNames loader locations w) {count : Nat}
    (hbefore : ∀ index < count, ∀ u ∈ (tour loader (locations.take index) w).1, ¬u.IsCritical) :
    ∀ v ∈ (tour loader (locations.take count) w).1, v.IsDirect := by
  intro v hv
  obtain ⟨index, hindex⟩ := List.mem_iff_getElem?.1 hv
  obtain ⟨hlocation, hvisit⟩ := eq_visit_of_tour hindex
  have hlt : index < count := by
    have hlength := (List.getElem?_eq_some_iff.1 hlocation).1
    rw [List.length_take] at hlength
    omega
  rw [List.getElem?_take_of_lt hlt] at hlocation
  rw [List.take_take, Nat.min_eq_left hlt.le] at hvisit
  rw [hvisit]
  apply isDirect_visit
  · exact hseparate.endsInSlash v.location (List.mem_of_getElem? hlocation)
  · exact hnames index v.location hlocation (hbefore index hlt)

/-- Whatever the loader does, no path is handed to it twice, and with the pin directory of a
location it gets just the paths that go on from that location's own directory by one name. A sweep
that ends well has tried every object that its directories listed, each of them once. -/
theorem paths_of_sweep (loader : Loader σ) (stall : Stall σ) (seconds : Nat) (mount : Path)
    (s : BootState σ) (hnames : FindsNames loader (Location.ofMount mount) (s.machine, s.outside)) :
    let locations := Location.ofMount mount
    let ended := (loadAll loader stall seconds locations).runOn s
    ∃ (calls : List Call) (waits : List Effect), (waits = [] ∨ waits = [.stall seconds]) ∧
      ended.2.effects = s.effects ++ calls.map (fun call => .load call.1 call.2) ++ waits ∧
      (calls.map Prod.fst).Nodup ∧
      (∀ call ∈ calls, call.2 ∈ locations ∧
        ∀ location ∈ locations, call.2.pin = location.pin ↔ call.1.IsIn location.dir) ∧
      (ended.1 = .ok () → ∀ index location names, locations[index]? = some location →
        let before := tour loader (locations.take index) (s.machine, s.outside)
        before.2.1.files.list location.dir = .ok names →
          ∀ name ∈ names, rawSuffix <:+ name →
            (location.dir.join ⟨name⟩, location) ∈ calls ∧
              (calls.map Prod.fst).count (location.dir.join ⟨name⟩) = 1) := by
  intro locations ended
  have hseparate : Location.Separate locations := Location.separate_ofMount mount
  obtain ⟨count, waits, hwaits, heffects, hbefore, hall⟩ :=
    runOn_loadAll_loads loader stall seconds locations s
  have hdirect := isDirect_of_mem_tour hseparate hnames hbefore
  have hvs := map_location_tour loader (locations.take count) (s.machine, s.outside)
  have hnodup := nodup_loads hseparate (hvs.symm ▸ List.take_prefix count locations) hdirect
  refine ⟨_, waits, hwaits, heffects, hnodup, ?_, ?_⟩
  · intro call hcall
    obtain ⟨v, hv, hcall⟩ := List.mem_flatMap.1 hcall
    have hlocation : v.location ∈ locations := by
      have hmem := List.mem_map_of_mem (f := Visit.location) hv
      rw [hvs] at hmem
      exact List.mem_of_mem_take hmem
    have hin := (hdirect v hv).isIn call hcall
    rw [snd_of_mem_calls hcall]
    refine ⟨hlocation, fun location hother => ⟨fun hpin => ?_, fun hisIn => ?_⟩⟩
    · rwa [← hseparate.eq_of_pin hlocation hother hpin]
    · rw [hseparate.eq_of_isIn hlocation hother hin hisIn]
  · intro hok index location names hlocation before hlist name hname hsuffix
    rw [hall hok] at hnodup ⊢
    have hobject : name ∈ objectsIn before.2.1.files location.dir := by
      rw [objectsIn_eq_filter hlist]
      exact List.mem_filter.2 ⟨hname, List.isSuffixOf_iff_suffix.2 hsuffix⟩
    have hcall : (location.dir.join ⟨name⟩, location) ∈
        loads (tour loader locations (s.machine, s.outside)).1 := by
      refine List.mem_flatMap.2 ⟨_, List.mem_of_getElem? (getElem?_tour hlocation _), ?_⟩
      rw [calls_visit]
      exact List.mem_map_of_mem hobject
    exact ⟨hcall, List.count_eq_one_of_mem hnodup (List.mem_map_of_mem hcall)⟩

def obliging : Loader Unit := fun _ _ => pure (pure .loaded)

theorem paths_of_sweep_nested :
    let s := listedStart ["m/etc/bpf/a.o", "m/etc/bpf/netd_shared/a.o"]
    let mount := Path.ofString "m"
    let ended := (loadAll obliging (fun _ => pure ()) 5 (Location.ofMount mount)).runOn s
    let outer : Call := (.ofString "m/etc/bpf/a.o", ⟨.ofString "m/etc/bpf/", "tethering/"⟩)
    let inner : Call :=
      (.ofString "m/etc/bpf/netd_shared/a.o", ⟨.ofString "m/etc/bpf/netd_shared/", "netd_shared/"⟩)
    FindsNames obliging (Location.ofMount mount) (s.machine, s.outside) ∧ ended.1 = .ok () ∧
      ∃ (calls : List Call) (waits : List Effect),
        ended.2.effects = s.effects ++ calls.map (fun call => .load call.1 call.2) ++ waits ∧
        (calls.map Prod.fst).Nodup ∧ outer ∈ calls ∧ inner ∈ calls := by
  intro s mount ended outer inner
  have hfound : ∀ index ∈ List.range 5, ∀ location ∈ (Location.ofMount mount)[index]?,
      ∀ name ∈ entriesIn (tour obliging ((Location.ofMount mount).take index)
        (s.machine, s.outside)).2.1.files location.dir, Path.slash ∉ name := by
    decide +kernel
  have hnames : FindsNames obliging (Location.ofMount mount) (s.machine, s.outside) := by
    intro index location hlocation before _
    have hindex : index < 5 := (List.getElem?_eq_some_iff.1 hlocation).1
    exact hfound index (List.mem_range.2 hindex) location hlocation
  have hended : ended.1 = .ok () := by decide +kernel
  have houter : (outer.2.dir.join ⟨Text.encode "a.o"⟩, outer.2) = outer := by decide +kernel
  have hinner : (inner.2.dir.join ⟨Text.encode "a.o"⟩, inner.2) = inner := by decide +kernel
  have houterAt : (Location.ofMount mount)[0]? = some outer.2 := by decide +kernel
  have hinnerAt : (Location.ofMount mount)[1]? = some inner.2 := by decide +kernel
  have houterList : (tour obliging ((Location.ofMount mount).take 0)
      (s.machine, s.outside)).2.1.files.list outer.2.dir =
        .ok [Text.encode "a.o", Text.encode "netd_shared"] := by
    decide +kernel
  have hinnerList : (tour obliging ((Location.ofMount mount).take 1)
      (s.machine, s.outside)).2.1.files.list inner.2.dir = .ok [Text.encode "a.o"] := by
    decide +kernel
  have hsuffix : rawSuffix <:+ Text.encode "a.o" := by decide
  obtain ⟨calls, waits, -, heffects, hnodup, -, hall⟩ :=
    paths_of_sweep obliging (fun _ => pure ()) 5 mount s hnames
  refine ⟨hnames, hended, calls, waits, ?_, hnodup, ?_, ?_⟩
  · simp only [ended, heffects]
  · rw [← houter]
    exact (hall hended 0 outer.2 _ houterAt houterList _ List.mem_cons_self hsuffix).1
  · rw [← hinner]
    exact (hall hended 1 inner.2 _ hinnerAt hinnerList _ List.mem_cons_self hsuffix).1

end Load

end BpfBoot
