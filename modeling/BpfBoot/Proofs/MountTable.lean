import Mathlib
import BpfBoot.Mounts
import BpfBoot.Proofs.TextLines

namespace BpfBoot

namespace Text

variable {sep : Char} {cs front : List Char}

theorem splitAll_of_not_mem (h : sep ∉ cs) : splitAll sep cs = [cs] := by
  induction cs with
  | nil => rfl
  | cons c cs ih =>
      obtain ⟨hc, hcs⟩ := not_or.1 (List.mem_cons.not.1 h)
      rw [splitAll, if_neg (Ne.symm hc), ih hcs]

theorem splitAll_append (h : sep ∉ front) (back : List Char) :
    splitAll sep (front ++ sep :: back) = front :: splitAll sep back := by
  induction front with
  | nil => exact if_pos rfl
  | cons c front ih =>
      obtain ⟨hc, hfront⟩ := not_or.1 (List.mem_cons.not.1 h)
      rw [List.cons_append, splitAll, if_neg (Ne.symm hc), ih hfront]

end Text

namespace Mounts

variable {device mount : List Char} {rows : List Row} {lines : List (List Char)}

/-- The lines hold the rows in their order. Anything may follow a mount point and the blank after
it; lines without a blank stand among the rows, and are none. -/
inductive Tabulated : List Row → List (List Char) → Prop
  | nil : Tabulated [] []
  | row {row : Row} {rows : List Row} {lines : List (List Char)} (hdevice : ' ' ∉ row.device)
      (hmount : ' ' ∉ row.mount) (more : List Char) (hrest : Tabulated rows lines) :
      Tabulated (row :: rows) ((row.device ++ ' ' :: (row.mount ++ ' ' :: more)) :: lines)
  | bare {line : List Char} {rows : List Row} {lines : List (List Char)} (h : ' ' ∉ line)
      (hrest : Tabulated rows lines) : Tabulated rows (line :: lines)

theorem row?_row (hdevice : ' ' ∉ device) (hmount : ' ' ∉ mount) (more : List Char) :
    row? (device ++ ' ' :: (mount ++ ' ' :: more)) = some ⟨device, mount⟩ := by
  rw [row?, Text.splitAll_append hdevice, Text.splitAll_append hmount]

theorem row?_of_not_mem {line : List Char} (h : ' ' ∉ line) : row? line = none := by
  rw [row?, Text.splitAll_of_not_mem h]

theorem Tabulated.filterMap_row? (h : Tabulated rows lines) : lines.filterMap row? = rows := by
  induction h with
  | nil => rfl
  | row hdevice hmount more hrest ih =>
      rw [List.filterMap_cons_some (row?_row hdevice hmount more), ih]
  | bare h hrest ih => rw [List.filterMap_cons_none (row?_of_not_mem h), ih]

theorem Tabulated.row?_chomp (h : Tabulated rows lines) :
    ∀ line ∈ lines, row? (Text.chomp line) = row? line := by
  induction h with
  | nil => exact fun line hline => absurd hline List.not_mem_nil
  | row hdevice hmount more hrest ih =>
      refine List.forall_mem_cons.2 ⟨?_, ih⟩
      have hblank : ' ' ≠ '\r' := by decide
      rw [Text.chomp_append_cons hblank, Text.chomp_append_cons hblank, row?_row hdevice hmount,
        row?_row hdevice hmount]
  | bare h hrest ih =>
      refine List.forall_mem_cons.2 ⟨?_, ih⟩
      rw [row?_of_not_mem h, row?_of_not_mem (h ∘ Text.mem_of_mem_chomp)]

theorem Tabulated.rows_eq {text : String} (h : Tabulated rows lines)
    (htext : Text.Joins lines text.toList) : Mounts.rows text = rows := by
  rw [Mounts.rows, htext.filterMap_lines rfl h.row?_chomp, h.filterMap_row?]

theorem after?_eq_some_iff {stem cs rest : List Char} :
    after? stem cs = some rest ↔ cs = stem ++ rest := by
  rw [after?]
  constructor
  · intro h
    split at h
    next hstem =>
      obtain ⟨tail, rfl⟩ := List.isPrefixOf_iff_prefix.1 hstem
      rw [List.drop_left] at h
      rw [Option.some.inj h]
    next => cases h
  · rintro rfl
    rw [if_pos (List.isPrefixOf_iff_prefix.2 (List.prefix_append _ _)), List.drop_left]

def version? (device mount : List Char) (row : Row) : Option String :=
  if row.device = device then (after? (mount ++ ['@']) row.mount).map String.ofList else none

theorem versionsOf_eq_filterMap (device mount : List Char) (rows : List Row) :
    versionsOf device mount rows = rows.filterMap (version? device mount) := by
  rw [versionsOf, List.filterMap_filter]
  simp only [decide_eq_true_eq]
  rfl

theorem version?_eq_some_iff {row : Row} {version : String} :
    version? device mount row = some version ↔
      row.device = device ∧ row.mount = mount ++ '@' :: version.toList := by
  rw [version?]
  split
  next hdevice =>
    rw [Option.map_eq_some_iff]
    simp only [after?_eq_some_iff, List.append_assoc, List.singleton_append]
    constructor
    · rintro ⟨cs, hmount, rfl⟩
      exact ⟨hdevice, by rw [hmount, String.toList_ofList]⟩
    · rintro ⟨-, hmount⟩
      exact ⟨version.toList, hmount, String.ofList_toList⟩
  next hdevice => simp [hdevice]

def Row.IsVersioned (device mount : List Char) (row : Row) : Prop :=
  row.device = device ∧ mount ++ ['@'] <+: row.mount

instance (device mount : List Char) : DecidablePred (Row.IsVersioned device mount) := fun row =>
  inferInstanceAs (Decidable (row.device = device ∧ mount ++ ['@'] <+: row.mount))

theorem Row.isVersioned_iff {row : Row} :
    row.IsVersioned device mount ↔ ∃ version, version? device mount row = some version := by
  constructor
  · rintro ⟨hdevice, rest, hmount⟩
    refine ⟨String.ofList rest, version?_eq_some_iff.2 ⟨hdevice, ?_⟩⟩
    rw [← hmount, String.toList_ofList, List.append_assoc, List.singleton_append]
  · rintro ⟨version, hversion⟩
    obtain ⟨hdevice, hmount⟩ := version?_eq_some_iff.1 hversion
    refine ⟨hdevice, version.toList, ?_⟩
    rw [hmount, List.append_assoc, List.singleton_append]

theorem forall₂_versionsOf (device mount : List Char) (rows : List Row) :
    List.Forall₂ (fun row version => row.mount = mount ++ '@' :: version.toList)
      (rows.filter (Row.IsVersioned device mount)) (versionsOf device mount rows) := by
  rw [versionsOf_eq_filterMap]
  induction rows with
  | nil => exact .nil
  | cons row rows ih =>
      rcases h : version? device mount row with _ | version
      · have hrow : ¬row.IsVersioned device mount := by
          rw [Row.isVersioned_iff, h]
          rintro ⟨version, hversion⟩
          cases hversion
        rwa [List.filter_cons_of_neg (by simpa using hrow), List.filterMap_cons_none h]
      · have hrow : row.IsVersioned device mount := Row.isVersioned_iff.2 ⟨version, h⟩
        rw [List.filter_cons_of_pos (by simpa using hrow), List.filterMap_cons_some h]
        exact .cons (version?_eq_some_iff.1 h).2 ih

theorem versionsOf_filter {keep : Row → Bool}
    (h : ∀ row : Row, row.IsVersioned device mount → keep row = true) (rows : List Row) :
    versionsOf device mount (rows.filter keep) = versionsOf device mount rows := by
  rw [versionsOf_eq_filterMap, versionsOf_eq_filterMap, List.filterMap_filter]
  refine List.filterMap_congr fun row _ => ?_
  split
  · rfl
  next hkeep =>
    symm
    refine Option.eq_none_iff_forall_ne_some.2 fun version hversion => ?_
    exact hkeep (h row (Row.isVersioned_iff.2 ⟨version, hversion⟩))

/-- The first of the rows that is mounted at the mount point. -/
def IsFirstAt (mount : List Char) (rows : List Row) (row : Row) : Prop :=
  row.mount = mount ∧ ∃ before after, rows = before ++ row :: after ∧
    ∀ earlier ∈ before, earlier.mount ≠ mount

theorem find?_eq_some_iff {first : Row} :
    rows.find? (·.mount = mount) = some first ↔ IsFirstAt mount rows first := by
  rw [List.find?_eq_some_iff_append, IsFirstAt]
  simp

/-- A row at the mount point itself, or one that a version is read from. -/
def Row.Matters (device mount : List Char) (row : Row) : Prop :=
  row.mount = mount ∨ row.IsVersioned device mount

instance (device mount : List Char) : DecidablePred (Row.Matters device mount) := fun row =>
  inferInstanceAs (Decidable (row.mount = mount ∨ row.IsVersioned device mount))

theorem find?_filter_matters (device mount : List Char) (rows : List Row) :
    (rows.filter (Row.Matters device mount)).find? (·.mount = mount) =
      rows.find? (·.mount = mount) := by
  rw [List.find?_filter]
  congr 1
  funext row
  by_cases hmount : row.mount = mount <;> simp [Row.Matters, hmount]

theorem versions_of_isFirstAt {table mount : String} {first : Row}
    (h : IsFirstAt mount.toList (Mounts.rows table) first) :
    (versions table mount).value = versionsOf first.device mount.toList (Mounts.rows table) := by
  rw [versions, find?_eq_some_iff.2 h]
  rfl

theorem versions_congr {table table' mount : String} {first : Row}
    (h : IsFirstAt mount.toList (Mounts.rows table) first)
    (hsame : (Mounts.rows table').filter (Row.Matters first.device mount.toList) =
      (Mounts.rows table).filter (Row.Matters first.device mount.toList)) :
    versions table' mount = versions table mount := by
  have hfirst := find?_eq_some_iff.2 h
  have hfirst' : (Mounts.rows table').find? (·.mount = mount.toList) = some first := by
    rw [← find?_filter_matters first.device, hsame, find?_filter_matters, hfirst]
  have hversions : versionsOf first.device mount.toList (Mounts.rows table') =
      versionsOf first.device mount.toList (Mounts.rows table) := by
    have hkeep : ∀ row : Row, row.IsVersioned first.device mount.toList →
        decide (row.Matters first.device mount.toList) = true :=
      fun row hrow => decide_eq_true (.inr hrow)
    rw [← versionsOf_filter hkeep, hsame, versionsOf_filter hkeep]
  rw [versions, versions, hfirst, hfirst']
  simp only [hversions]

/-- Without a row at the mount point there is no version. Otherwise the versions are those of the
device of the first such row, wherever the versioned rows stand, and rows that do not matter may
come and go. -/
theorem versions_of_table (mount : String) {rows : List Row} {lines : List (List Char)}
    {text : String} (hrows : Tabulated rows lines) (htext : Text.Joins lines text.toList) :
    ((∀ row ∈ rows, row.mount ≠ mount.toList) → (versions text mount).value = []) ∧
      ∀ first, IsFirstAt mount.toList rows first →
        List.Forall₂ (fun row version => row.mount = mount.toList ++ '@' :: version.toList)
            (rows.filter (Row.IsVersioned first.device mount.toList)) (versions text mount).value ∧
          ∀ rows' lines' text', Tabulated rows' lines' → Text.Joins lines' text'.toList →
            rows'.filter (Row.Matters first.device mount.toList) =
                rows.filter (Row.Matters first.device mount.toList) →
              versions text' mount = versions text mount := by
  obtain rfl := hrows.rows_eq htext
  refine ⟨fun hnone => ?_, fun first hfirst => ⟨?_, ?_⟩⟩
  · have hfind : (Mounts.rows text).find? (·.mount = mount.toList) = none := by
      simpa using hnone
    rw [versions, hfind]
    rfl
  · rw [versions_of_isFirstAt hfirst]
    exact forall₂_versionsOf first.device mount.toList (Mounts.rows text)
  · intro rows' lines' text' hrows' htext' hsame
    obtain rfl := hrows'.rows_eq htext'
    exact versions_congr hfirst hsame

def sharedRows : List Row :=
  [⟨"dm1".toList, "/t@35".toList⟩, ⟨"dm2".toList, "/t@34".toList⟩, ⟨"dm1".toList, "/t".toList⟩,
    ⟨"dm1".toList, "/tz@1".toList⟩, ⟨"dm1".toList, "/t@7".toList⟩]

def sharedLines : List (List Char) :=
  ["dm1 /t@35 ext4".toList, "none".toList, "dm2 /t@34 ext4".toList, "dm1 /t ext4".toList,
    "dm1 /tz@1 ".toList, "dm1 /t@7 ".toList]

def sharedText : String :=
  "dm1 /t@35 ext4\r\nnone\ndm2 /t@34 ext4\ndm1 /t ext4\ndm1 /tz@1 \r\ndm1 /t@7 "

theorem tabulated_shared : Tabulated sharedRows sharedLines :=
  .row (by decide) (by decide) "ext4".toList <| .bare (by decide) <|
    .row (by decide) (by decide) "ext4".toList <| .row (by decide) (by decide) "ext4".toList <|
    .row (by decide) (by decide) [] <| .row (by decide) (by decide) [] .nil

theorem joins_shared : Text.Joins sharedLines sharedText.toList :=
  .returnFeed (by decide) <| .feed (by decide) <| .feed (by decide) <| .feed (by decide) <|
    .returnFeed (by decide) <| .last (by decide)

theorem versions_of_table_shared :
    Tabulated sharedRows sharedLines ∧ Text.Joins sharedLines sharedText.toList ∧
      List.Forall₂ (fun (row : Row) version => row.mount = "/t".toList ++ '@' :: version.toList)
        [⟨"dm1".toList, "/t@35".toList⟩, ⟨"dm1".toList, "/t@7".toList⟩]
        (versions sharedText "/t").value ∧
      versions "dm1 /t@35 \ndm1 /t \ndm1 /t@7 \n" "/t" = versions sharedText "/t" := by
  have hfirst : IsFirstAt "/t".toList sharedRows ⟨"dm1".toList, "/t".toList⟩ :=
    ⟨rfl, sharedRows.take 2, sharedRows.drop 3, rfl, by decide⟩
  obtain ⟨hversions, hframe⟩ :=
    (versions_of_table "/t" tabulated_shared joins_shared).2 _ hfirst
  refine ⟨tabulated_shared, joins_shared, ?_, ?_⟩
  · have hfilter : sharedRows.filter (Row.IsVersioned "dm1".toList "/t".toList) =
        [⟨"dm1".toList, "/t@35".toList⟩, ⟨"dm1".toList, "/t@7".toList⟩] := by decide
    rwa [hfilter] at hversions
  · refine hframe [⟨"dm1".toList, "/t@35".toList⟩, ⟨"dm1".toList, "/t".toList⟩,
      ⟨"dm1".toList, "/t@7".toList⟩] ["dm1 /t@35 ".toList, "dm1 /t ".toList, "dm1 /t@7 ".toList]
      "dm1 /t@35 \ndm1 /t \ndm1 /t@7 \n" ?_ ?_ (by decide)
    · exact .row (by decide) (by decide) [] <| .row (by decide) (by decide) [] <|
        .row (by decide) (by decide) [] .nil
    · exact .feed (by decide) <| .feed (by decide) <| .feed (by decide) .nil

end Mounts

end BpfBoot
