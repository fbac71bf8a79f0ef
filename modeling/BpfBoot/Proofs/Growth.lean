import BpfBoot.Proofs.Walks

namespace BpfBoot

open Text (Octets)

namespace FileSystem

variable {fs gs hs : FileSystem}

/-- Nothing has gone or become a node of another kind, and only directories have come. -/
structure Grows (fs gs : FileSystem) : Prop where
  workDir : gs.workDir = fs.workDir
  keeps : ∀ {place way}, fs.way? place = some way → gs.way? place = some way
  adds : ∀ {place way}, gs.way? place = some way → fs.way? place = some way ∨ way = .inside

theorem Grows.refl (fs : FileSystem) : fs.Grows fs := ⟨rfl, id, .inl⟩

theorem Grows.trans (h : fs.Grows gs) (h' : gs.Grows hs) : fs.Grows hs := by
  refine ⟨h'.workDir.trans h.workDir, fun hway => h'.keeps (h.keeps hway), fun hway => ?_⟩
  rcases h'.adds hway with hway | hinside
  · exact h.adds hway
  · exact .inr hinside

theorem way?_put {place : Place} {node : Node} (hplace : place ≠ [])
    (h : fs.fits place node = true) (p : Place) :
    (fs.put place node).way? p = if p = place then some node.way else fs.way? p := by
  rw [way?, node?_put hplace h]
  split <;> rfl

theorem grows_put {place : Place} {node : Node} (hplace : place ≠ [])
    (hold : fs.way? place = some node.way ∨ fs.way? place = none ∧ node.way = .inside) :
    fs.Grows (fs.put place node) := by
  by_cases h : fs.fits place node = true
  · refine ⟨workDir_put fs place node, fun {p way} hway => ?_, fun {p way} hway => ?_⟩
    · rw [way?_put hplace h]
      split
      · next hp =>
        subst hp
        rcases hold with hold | ⟨hold, -⟩
        · rw [← hold, hway]
        · rw [hold] at hway
          cases hway
      · exact hway
    · rw [way?_put hplace h] at hway
      split at hway
      · next hp =>
        subst hp
        rcases hold with hold | ⟨-, hinside⟩
        · exact .inl (hold.trans hway)
        · exact .inr ((Option.some.inj hway).symm.trans hinside)
      · exact .inl hway
  · rw [put, dif_neg h]
    exact .refl fs

theorem Grows.leads (h : fs.Grows gs) {budget : Nat} {place q : Place} {names : List Path.Name}
    (hl : fs.Leads budget place names q) : gs.Leads budget place names q := by
  induction hl with
  | done budget place => exact .done budget place
  | stay hdir _ ih => exact .stay (h.keeps hdir) ih
  | up hdir _ ih => exact .up (h.keeps hdir) ih
  | enter hdir hname hway hlink _ ih => exact .enter (h.keeps hdir) hname (h.keeps hway) hlink ih
  | follow hdir hname hway htarget _ ih =>
      exact .follow (h.keeps hdir) hname (h.keeps hway) htarget ih

theorem Grows.resolveParent (h : fs.Grows gs) {p : Path} {dir : Place} {last? : Option Path.Name}
    (hp : fs.resolveParent p = .ok (dir, last?)) : gs.resolveParent p = .ok (dir, last?) := by
  rw [resolveParent_eq_ok_iff, h.workDir]
  obtain ⟨hcheck, hroot | ⟨last, hlast, hwalk, hdir, hname⟩⟩ := resolveParent_eq_ok_iff.1 hp
  · exact ⟨hcheck, .inl hroot⟩
  · exact ⟨hcheck, .inr ⟨last, hlast, h.leads hwalk, h.keeps hdir, hname⟩⟩

theorem Grows.resolve (h : fs.Grows gs) {p : Path} {place : Place}
    (hp : fs.resolve p = .ok place) : gs.resolve p = .ok place := by
  obtain ⟨hcheck, hwalk⟩ := resolve_eq_ok_iff.1 hp
  refine resolve_eq_ok_iff.2 ⟨hcheck, ?_⟩
  rw [h.workDir]
  exact h.leads hwalk

theorem Grows.look_directory (h : fs.Grows gs) {p : Path} {mode : Mode}
    (hp : fs.look p = .ok (.directory mode)) : ∃ mode, gs.look p = .ok (.directory mode) := by
  obtain ⟨q, hq, hnode⟩ := look_eq_ok_iff.1 hp
  obtain ⟨mode, hmode⟩ := way?_eq_inside.1 (h.keeps (way?_eq_inside.2 ⟨mode, hnode⟩))
  exact ⟨mode, look_eq_ok_iff.2 ⟨q, h.resolve hq, hmode⟩⟩

theorem grows_overwrite (limit : Option Nat) (p : Path) (data : Octets) (fs : FileSystem) :
    fs.Grows (fs.overwrite limit p data).2 := by
  unfold overwrite
  split
  · exact .refl fs
  · next place _ =>
    split
    · next content program hnode =>
      split
      · exact .refl fs
      · have hplace : place ≠ [] := fun hroot => by
          rw [hroot] at hnode
          cases hnode
        exact grows_put hplace (.inl (by rw [way?, hnode]; rfl))
    all_goals exact .refl fs

def Occupied (fs : FileSystem) (p : Path) : Prop :=
  (∃ dir, fs.resolveParent p = .ok (dir, none)) ∨
    ∃ dir name node, fs.resolveParent p = .ok (dir, some name) ∧ name.length ≤ maxName ∧
      fs.node? (name :: dir) = some node

theorem resolveParent_error {p : Path} {fault : IoFault} (h : fs.resolveParent p = .error fault) :
    IsWalkFault fault := by
  rw [resolveParent] at h
  rcases bind_eq_error_iff.1 h with h | ⟨-, -, h⟩
  · exact checkPath_error h
  split at h
  · cases h
  rcases bind_eq_error_iff.1 h with h | ⟨dir, -, h⟩
  · exact mapError_walk_error h
  split at h
  · cases h
  · cases h
    exact .inr ⟨.notDirectory, by decide, rfl⟩

theorem IsWalkFault.ne_alreadyExists {fault : IoFault} (h : IsWalkFault fault) :
    fault ≠ .os .alreadyExists := by
  rintro rfl
  rcases h with h | ⟨code, hcode, h⟩
  · cases h
  · cases h
    revert hcode
    decide

theorem makeDirectory_cases (umask mode : Mode) (p : Path) (fs : FileSystem) :
    (∃ dir name, fs.resolveParent p = .ok (dir, some name) ∧ name.length ≤ maxName ∧
        fs.node? (name :: dir) = none ∧
        fs.makeDirectory umask mode p =
          (.ok (), fs.put (name :: dir) (.directory (mode &&& ~~~umask)))) ∨
      ∃ fault, fs.makeDirectory umask mode p = (.error fault, fs) ∧
        (fault = .os .alreadyExists → fs.Occupied p) := by
  rw [makeDirectory]
  rcases hparent : fs.resolveParent p with fault | ⟨dir, _ | name⟩
  · exact .inr ⟨fault, rfl, fun h => absurd h (resolveParent_error hparent).ne_alreadyExists⟩
  · exact .inr ⟨_, rfl, fun _ => .inl ⟨dir, hparent⟩⟩
  by_cases hlong : maxName < name.length
  · refine .inr ⟨.os .nameTooLong, by simp [hlong], fun h => absurd h (by decide)⟩
  have hshort : name.length ≤ maxName := Nat.le_of_not_lt hlong
  rcases hnode : fs.node? (name :: dir) with _ | node
  · exact .inl ⟨dir, name, rfl, hshort, hnode, by simp [hlong, hnode]⟩
  · refine .inr ⟨.os .alreadyExists, by simp [hlong, hnode], fun _ => ?_⟩
    exact .inr ⟨dir, name, node, hparent, hshort, hnode⟩

theorem grows_put_directory {dir : Place} {name : Path.Name} (h : fs.node? (name :: dir) = none)
    (mode : Mode) : fs.Grows (fs.put (name :: dir) (.directory mode)) :=
  grows_put (List.cons_ne_nil name dir) (.inr ⟨by rw [way?, h]; rfl, rfl⟩)

theorem grows_makeDirectory (umask mode : Mode) (p : Path) (fs : FileSystem) :
    fs.Grows (fs.makeDirectory umask mode p).2 := by
  obtain ⟨dir, name, -, -, hnone, h⟩ | ⟨fault, h, -⟩ := makeDirectory_cases umask mode p fs <;> rw [h]
  · exact grows_put_directory hnone _
  · exact .refl fs

theorem look_of_makeDirectory {umask mode : Mode} {p : Path}
    (h : (fs.makeDirectory umask mode p).1 = .ok ()) :
    (fs.makeDirectory umask mode p).2.look p = .ok (.directory (mode &&& ~~~umask)) := by
  obtain ⟨dir, name, hparent, hshort, hnone, hmade⟩ | ⟨fault, hmade, -⟩ :=
    makeDirectory_cases umask mode p fs
  · obtain ⟨old, hdir⟩ := node?_of_resolveParent hparent
    have hgrows := grows_put_directory hnone (mode &&& ~~~umask)
    rw [hmade]
    refine look_of_resolveParent (hgrows.resolveParent hparent) hshort ?_
    rw [node?_put (List.cons_ne_nil name dir) (fits_directory hdir name _), if_pos rfl]
  · rw [hmade] at h
    cases h

theorem occupied_of_makeDirectory {umask mode : Mode} {p : Path}
    (h : (fs.makeDirectory umask mode p).1 = .error (.os .alreadyExists)) :
    (fs.makeDirectory umask mode p).2 = fs ∧ fs.Occupied p := by
  obtain ⟨dir, name, -, -, -, hmade⟩ | ⟨fault, hmade, hoccupied⟩ := makeDirectory_cases umask mode p fs
  · rw [hmade] at h
    cases h
  · rw [hmade] at h ⊢
    exact ⟨rfl, hoccupied (Except.error.inj h)⟩

theorem files_of_failed {umask mode : Mode} {p : Path} {fault : IoFault}
    (h : (fs.makeDirectory umask mode p).1 = .error fault) :
    (fs.makeDirectory umask mode p).2 = fs := by
  obtain ⟨dir, name, -, -, -, hmade⟩ | ⟨fault, hmade, -⟩ := makeDirectory_cases umask mode p fs
  · rw [hmade] at h
    cases h
  · rw [hmade]

theorem occupied_of_made {umask mode : Mode} {p : Path}
    (h : (fs.makeDirectory umask mode p).1 = .ok ()) :
    (fs.makeDirectory umask mode p).2.Occupied p := by
  obtain ⟨dir, name, hparent, hshort, hnone, hmade⟩ | ⟨fault, hmade, -⟩ :=
    makeDirectory_cases umask mode p fs
  · obtain ⟨old, hdir⟩ := node?_of_resolveParent hparent
    have hgrows := grows_put_directory hnone (mode &&& ~~~umask)
    rw [hmade]
    refine .inr ⟨dir, name, .directory (mode &&& ~~~umask), hgrows.resolveParent hparent, hshort, ?_⟩
    rw [node?_put (List.cons_ne_nil name dir) (fits_directory hdir name _), if_pos rfl]
  · rw [hmade] at h
    cases h

theorem makeDirectory_of_occupied {p : Path} (h : fs.Occupied p) (umask mode : Mode) :
    fs.makeDirectory umask mode p = (.error (.os .alreadyExists), fs) := by
  rw [makeDirectory]
  rcases h with ⟨dir, hparent⟩ | ⟨dir, name, node, hparent, hshort, hnode⟩
  · rw [hparent]
  · simp only [hparent, if_neg (Nat.not_lt.2 hshort), hnode]

theorem Occupied.grows {p : Path} (h : fs.Occupied p) (hg : fs.Grows gs) : gs.Occupied p := by
  rcases h with ⟨dir, hparent⟩ | ⟨dir, name, node, hparent, hshort, hnode⟩
  · exact .inl ⟨dir, hg.resolveParent hparent⟩
  · have hway : gs.way? (name :: dir) = some node.way := hg.keeps (by rw [way?, hnode]; rfl)
    obtain ⟨node', hnode', -⟩ := Option.map_eq_some_iff.1 hway
    exact .inr ⟨dir, name, node', hg.resolveParent hparent, hshort, hnode'⟩

/-- The path led to no directory before, and the entry that it names is one that there was before
and is no directory itself. -/
structure Obstructed (before fs : FileSystem) (p : Path) : Prop where
  no_directory : ¬∃ mode, before.look p = .ok (.directory mode)
  entry : ∃ dir name way, fs.resolveParent p = .ok (dir, some name) ∧ way ≠ .inside ∧
    before.way? (name :: dir) = some way ∧ fs.way? (name :: dir) = some way

/-- There is a directory at a path, unless the way was obstructed from the start. -/
def Provides (before fs : FileSystem) (p : Path) : Prop :=
  (∃ mode, fs.look p = .ok (.directory mode)) ∨ Obstructed before fs p

theorem Obstructed.grows {before : FileSystem} {p : Path} (h : Obstructed before fs p)
    (hg : fs.Grows gs) : Obstructed before gs p := by
  obtain ⟨hled, dir, name, way, hparent, hway, hbefore, hnow⟩ := h
  exact ⟨hled, dir, name, way, hg.resolveParent hparent, hway, hbefore, hg.keeps hnow⟩

theorem Provides.grows {before : FileSystem} {p : Path} (h : Provides before fs p)
    (hg : fs.Grows gs) : Provides before gs p := by
  rcases h with ⟨mode, hlook⟩ | hobstructed
  · exact .inl (hg.look_directory hlook)
  · exact .inr (hobstructed.grows hg)

theorem Provides.of_occupied {before : FileSystem} {p : Path} (hg : before.Grows fs)
    (h : fs.Occupied p) : Provides before fs p := by
  -- A link that led to a directory still leads there.
  by_cases hled : ∃ mode, before.look p = .ok (.directory mode)
  · obtain ⟨mode, hlook⟩ := hled
    exact .inl (hg.look_directory hlook)
  rcases h with ⟨dir, hparent⟩ | ⟨dir, name, node, hparent, hshort, hnode⟩
  · exact .inl (look_of_resolveParent_none hparent)
  have hway : fs.way? (name :: dir) = some node.way := by rw [way?, hnode]; rfl
  by_cases hinside : node.way = .inside
  · obtain ⟨mode, rfl⟩ := Node.way_eq_inside hinside
    exact .inl ⟨mode, look_of_resolveParent hparent hshort hnode⟩
  · have hbefore := (hg.adds hway).resolve_right hinside
    exact .inr ⟨hled, dir, name, node.way, hparent, hinside, hbefore, hway⟩

end FileSystem

end BpfBoot
