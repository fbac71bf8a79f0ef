import Mathlib
import BpfBoot.Proofs.BuiltObjects

namespace BpfBoot.Object

open Text (Octets)

section Writes

variable {start mid stop : Nat} {writes : List Write}

/-- Writes between two places, in the order of their own places, of which none meets the next. -/
def Apart : Nat → List Write → Nat → Prop
  | start, [], stop => start ≤ stop
  | start, w :: rest, stop => start ≤ w.place ∧ Apart w.stop rest stop

def spread : Nat → List Write → Nat → Octets
  | start, [], stop => zeros (stop - start)
  | start, w :: rest, stop => zeros (w.place - start) ++ (w.octets ++ spread w.stop rest stop)

theorem Apart.le (h : Apart start writes stop) : start ≤ stop := by
  induction writes generalizing start with
  | nil => exact h
  | cons w rest ih => exact h.1.trans ((Nat.le_add_right _ _).trans (ih h.2))

theorem zeros_add (first second : Nat) : zeros (first + second) = zeros first ++ zeros second :=
  List.replicate_add first second 0

theorem onto_zeros {w : Write} {front : Octets} (hfront : front.length ≤ w.place)
    (hstop : w.stop ≤ stop) :
    w.onto (front ++ zeros (stop - front.length)) =
      some ((front ++ zeros (w.place - front.length) ++ w.octets) ++ zeros (stop - w.stop)) := by
  have hplace : w.place ≤ w.stop := Nat.le_add_right _ _
  have hzeros : zeros (stop - front.length) = zeros (w.place - front.length) ++
      (zeros w.octets.length ++ zeros (stop - w.stop)) := by
    rw [← zeros_add, ← zeros_add]
    congr 1
    simp only [Write.stop] at *
    omega
  have hlength : (front ++ zeros (w.place - front.length)).length = w.place := by
    rw [List.length_append, zeros, List.length_replicate, Nat.add_sub_cancel' hfront]
  have hcut : ((front ++ zeros (w.place - front.length)) ++ zeros w.octets.length).length =
      w.stop := by
    rw [List.length_append, hlength, zeros, List.length_replicate, Write.stop]
  have hfits : w.stop ≤ (front ++ zeros (stop - front.length)).length := by
    rw [hzeros, ← List.append_assoc, ← List.append_assoc, List.length_append, hcut]
    exact Nat.le_add_right _ _
  rw [Write.onto, if_pos hfits, hzeros, ← List.append_assoc, List.take_left' hlength,
    ← List.append_assoc, List.drop_left' hcut]

/-- Writes that stay apart are all made, and each of them is there in the end. -/
theorem writeAll_of_apart (h : Apart start writes stop) {front : Octets}
    (hfront : front.length = start) :
    writeAll writes (front ++ zeros (stop - start)) = some (front ++ spread start writes stop) := by
  induction writes generalizing start front with
  | nil => rfl
  | cons w rest ih =>
      subst hfront
      have hlength : (front ++ zeros (w.place - front.length) ++ w.octets).length = w.stop := by
        rw [List.length_append, List.length_append, zeros, List.length_replicate,
          Nat.add_sub_cancel' h.1, Write.stop]
      have hrest := ih h.2 hlength
      rw [writeAll] at hrest ⊢
      rw [List.foldlM_cons, onto_zeros h.1 h.2.le, Option.bind_eq_bind, Option.bind_some, hrest,
        spread, List.append_assoc, List.append_assoc]

theorem Apart.gap (hle : start ≤ mid) (h : Apart mid writes stop) : Apart start writes stop := by
  cases writes with
  | nil => exact hle.trans h
  | cons w rest => exact ⟨hle.trans h.1, h.2⟩

theorem spread_gap (hle : start ≤ mid) (h : Apart mid writes stop) :
    spread start writes stop = zeros (mid - start) ++ spread mid writes stop := by
  cases writes with
  | nil =>
      have hstop : mid ≤ stop := h
      rw [spread, spread, ← zeros_add]
      congr 1
      omega
  | cons w rest =>
      have hplace := h.1
      rw [spread, spread, ← List.append_assoc (zeros (mid - start)), ← zeros_add]
      congr 2
      omega

theorem Apart.append {more : List Write} (h : Apart start writes mid) (hmore : Apart mid more stop) :
    Apart start (writes ++ more) stop := by
  induction writes generalizing start with
  | nil => exact hmore.gap h
  | cons w rest ih => exact ⟨h.1, ih h.2⟩

theorem spread_append {more : List Write} (h : Apart start writes mid) (hmore : Apart mid more stop) :
    spread start (writes ++ more) stop = spread start writes mid ++ spread mid more stop := by
  induction writes generalizing start with
  | nil => exact spread_gap h hmore
  | cons w rest ih =>
      rw [List.cons_append, spread, spread, ih h.2, List.append_assoc, List.append_assoc]

end Writes

section Assemble

theorem foldl_addName (names : List String) (table : Octets) (starts : List Nat) :
    names.foldl addName (table, starts) =
      (table ++ names.flatMap nameOctets, starts ++ nameStarts table.length names) := by
  induction names generalizing table starts with
  | nil => rw [List.foldl_nil, List.flatMap_nil, nameStarts, List.append_nil, List.append_nil]
  | cons name names ih =>
      have hname : addName (table, starts) name =
          (table ++ nameOctets name, starts ++ [table.length]) := by
        rw [addName, nameOctets, List.append_assoc]
      rw [List.foldl_cons, hname, ih, nameStarts, List.flatMap_cons, List.append_assoc,
        List.append_assoc, List.length_append, List.singleton_append]

theorem apart_headerWrites (table count : Nat) : Apart 0 (headerWrites table count) entrySize := by
  simp [headerWrites, Apart, Write.stop, magic, entrySize]

theorem spread_headerWrites (table count : Nat) :
    spread 0 (headerWrites table count) entrySize = headerOctets table count := by
  simp [headerWrites, spread, Write.stop, headerOctets, magic, entrySize, zeros]

def entryOctets (start size : Nat) (last : Bool) : Octets :=
  if last then sectionOctets start 3 entrySize size else sectionOctets start 0 0 0

theorem apart_entryWrites (place start size : Nat) (last : Bool) :
    Apart place (entryWrites place start size last) (place + entrySize) := by
  cases last <;> simp [entryWrites, Apart, Write.stop, entrySize, Nat.add_assoc]

theorem spread_entryWrites (place start size : Nat) (last : Bool) :
    spread place (entryWrites place start size last) (place + entrySize) =
      entryOctets start size last := by
  cases last with
  | false =>
      simp only [entryWrites, entryOctets, spread, Write.stop, sectionOctets, Nat.sub_self,
        length_wordOctets, List.append_assoc, Nat.add_sub_add_left, Bool.false_eq_true, if_false]
      rfl
  | true =>
      simp [entryWrites, entryOctets, spread, Write.stop, sectionOctets, entrySize, zeros]

theorem apart_entriesWrites (table size last index : Nat) (starts : List Nat) :
    Apart (table + (index + 1) * entrySize) (entriesWrites table size last index starts)
      (table + (index + 1 + starts.length) * entrySize) := by
  induction starts generalizing index with
  | nil => exact Nat.le_refl _
  | cons start starts ih =>
      have hnext := ih (index + 1)
      rw [Nat.succ_mul (index + 1), ← Nat.add_assoc] at hnext
      rw [List.length_cons, Nat.add_comm starts.length, ← Nat.add_assoc (index + 1)]
      exact (apart_entryWrites _ start size _).append hnext

def entriesOctets (size last : Nat) : Nat → List Nat → Octets
  | _, [] => []
  | index, start :: starts =>
      entryOctets start size (index == last) ++ entriesOctets size last (index + 1) starts

theorem spread_entriesWrites (table size last index : Nat) (starts : List Nat) :
    spread (table + (index + 1) * entrySize) (entriesWrites table size last index starts)
        (table + (index + 1 + starts.length) * entrySize) =
      entriesOctets size last index starts := by
  induction starts generalizing index with
  | nil => rw [entriesWrites, spread, List.length_nil, Nat.add_zero, Nat.sub_self]; rfl
  | cons start starts ih =>
      have hnext := ih (index + 1)
      have hapart := apart_entriesWrites table size last (index + 1) starts
      rw [Nat.succ_mul (index + 1), ← Nat.add_assoc] at hnext hapart
      rw [List.length_cons, Nat.add_comm starts.length, ← Nat.add_assoc (index + 1), entriesWrites,
        spread_append (apart_entryWrites _ start size _) hapart, hnext, spread_entryWrites]
      rfl

theorem entriesOctets_eq {size last index count : Nat} {starts : List Nat}
    (hlast : index + count = last) (hlength : starts.length = count + 1) :
    entriesOctets size last index starts =
      (starts.take count).flatMap (fun start => sectionOctets start 0 0 0) ++
        (starts.drop count).flatMap fun start => sectionOctets start 3 entrySize size := by
  induction count generalizing index starts with
  | zero =>
      obtain ⟨start, rfl⟩ := List.length_eq_one_iff.1 hlength
      have hindex : (index == last) = true := beq_iff_eq.2 hlast
      rw [entriesOctets, entriesOctets, hindex]
      rfl
  | succ count ih =>
      obtain ⟨start, starts, rfl⟩ := List.exists_cons_of_length_eq_add_one hlength
      have hindex : (index == last) = false := beq_eq_false_iff_ne.2 (by omega)
      have hnext : index + 1 + count = last := by omega
      have hrest := ih hnext (Nat.succ.inj hlength)
      rw [entriesOctets, hindex, hrest, List.take_succ_cons, List.drop_succ_cons, List.flatMap_cons,
        List.append_assoc]
      rfl

theorem entriesStart_eq (sections : List String) :
    (entrySize + (tableOf sections).length + 7) / 8 * 8 = entriesStart sections := by
  rw [entriesStart, paddingOf]
  omega

def tableWrites (sections : List String) : List Write :=
  ⟨entrySize, tableOf sections⟩ ::
    entriesWrites (entriesStart sections) (tableOf sections).length sections.length 0
      (startsOf sections)

theorem apart_entries (sections : List String) :
    Apart (entriesStart sections + entrySize)
      (entriesWrites (entriesStart sections) (tableOf sections).length sections.length 0
        (startsOf sections))
      (entriesStart sections + (sections.length + 2) * entrySize) := by
  have hentries := apart_entriesWrites (entriesStart sections) (tableOf sections).length
    sections.length 0 (startsOf sections)
  rwa [length_startsOf, Nat.zero_add, Nat.one_mul, Nat.add_comm 1] at hentries

theorem tableStop_le (sections : List String) :
    entrySize + (tableOf sections).length ≤ entriesStart sections + entrySize :=
  (Nat.le_add_right _ _).trans (Nat.le_add_right _ _)

theorem apart_tableWrites (sections : List String) :
    Apart entrySize (tableWrites sections)
      (entriesStart sections + (sections.length + 2) * entrySize) :=
  ⟨Nat.le_refl _, (apart_entries sections).gap (tableStop_le sections)⟩

theorem spread_tableWrites (sections : List String) :
    spread entrySize (tableWrites sections)
        (entriesStart sections + (sections.length + 2) * entrySize) =
      tableOf sections ++ (List.replicate (paddingOf sections) 0 ++
        (sectionOctets 0 0 0 0 ++ entriesOctets (tableOf sections).length sections.length 0
          (startsOf sections))) := by
  have hspread := spread_entriesWrites (entriesStart sections) (tableOf sections).length
    sections.length 0 (startsOf sections)
  rw [length_startsOf, Nat.zero_add, Nat.one_mul, Nat.add_comm 1] at hspread
  have hzeros : zeros (entriesStart sections + entrySize - (entrySize + (tableOf sections).length)) =
      List.replicate (paddingOf sections) 0 ++ sectionOctets 0 0 0 0 := by
    rw [entriesStart, Nat.add_assoc _ (paddingOf sections), Nat.add_sub_cancel_left, zeros_add]
    rfl
  have hgap := spread_gap (tableStop_le sections) (apart_entries sections)
  rw [hspread, hzeros, List.append_assoc] at hgap
  rw [tableWrites, spread, Write.stop, hgap, Nat.sub_self]
  rfl

theorem assemble_eq_build (sections : List String) : assemble sections = some (build sections) := by
  have hnames : (sections ++ [nameTableName]).foldl addName ([0], []) =
      (tableOf sections, startsOf sections) := foldl_addName (allNames sections) [0] []
  have hassemble : assemble sections = writeAll
      (headerWrites (entriesStart sections) (sections.length + 2) ++ tableWrites sections)
      (zeros (entriesStart sections + (sections.length + 2) * entrySize)) := by
    rw [assemble, hnames, entriesStart_eq, length_startsOf]
    rfl
  have hheader := apart_headerWrites (entriesStart sections) (sections.length + 2)
  have hmade := writeAll_of_apart (hheader.append (apart_tableWrites sections)) List.length_nil
  rw [spread_append hheader (apart_tableWrites sections), spread_headerWrites, spread_tableWrites,
    entriesOctets_eq (Nat.zero_add _) (length_startsOf sections)] at hmade
  rw [hassemble]
  refine hmade.trans (congrArg some ?_)
  simp only [build, tableOf, startsOf, allNames, paddingOf, entriesStart, List.nil_append,
    List.append_assoc]

end Assemble

/-- Making an object of a list of names succeeds. The object reads back as that list, in its order,
between the section without a name and the one that holds the names; it is critical just when the
critical name is in the list. -/
theorem sectionNames_build {sections : List String} (h : Buildable sections) :
    assemble sections = some (build sections) ∧
      sectionNames (build sections) = .ok ("" :: sections ++ [".shstrtab"]) ∧
      (isCritical (build sections) = .ok true ↔ "critical" ∈ sections) ∧
      (isCritical (build sections) = .ok false ↔ "critical" ∉ sections) := by
  have hnames := h.sectionNames_eq
  have hcritical : ("" :: sections ++ [".shstrtab"]).contains criticalName = true ↔
      "critical" ∈ sections := by
    simp [criticalName]
  rw [isCritical_of_sectionNames hnames, Except.ok.injEq, Except.ok.injEq, ← Bool.not_eq_true,
    hcritical]
  exact ⟨assemble_eq_build sections, hnames, Iff.rfl, Iff.rfl⟩

theorem sectionNames_build_twice :
    (assemble ["maps", "", "prüfung", "critical", "maps"]).map sectionNames =
        some (.ok ["", "maps", "", "prüfung", "critical", "maps", ".shstrtab"]) ∧
      (assemble ["maps", "", "prüfung", "critical", "maps"]).map isCritical = some (.ok true) ∧
      (assemble ["critical_not"]).map isCritical = some (.ok false) := by
  have htwice : Buildable ["maps", "", "prüfung", "critical", "maps"] :=
    ⟨by decide, by decide, by decide⟩
  have hnot : Buildable ["critical_not"] := ⟨by decide, by decide, by decide⟩
  obtain ⟨hmade, hnames, hcritical, -⟩ := sectionNames_build htwice
  obtain ⟨hmade', -, -, hharmless⟩ := sectionNames_build hnot
  rw [hmade, hmade']
  refine ⟨congrArg some hnames, congrArg some (hcritical.2 (by decide)), ?_⟩
  exact congrArg some (hharmless.2 (by decide))

end BpfBoot.Object
