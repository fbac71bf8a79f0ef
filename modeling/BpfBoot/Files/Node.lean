import BpfBoot.Fault
import BpfBoot.Path
import BpfBoot.Table

namespace BpfBoot

open Text (Octets)

abbrev Mode := UInt32

inductive Termination where
  | exited (status : UInt8)
  | killed (signal : Nat)
  deriving DecidableEq, Repr

inductive Device where
  | null
  | full
  deriving DecidableEq, Repr

inductive Node where
  | directory (mode : Mode)
  /-- A regular file. One that can be executed says how its run ends. -/
  | file (content : Octets) (program : Option Termination)
  | link (target : Path)
  | device (kind : Device)
  deriving DecidableEq, Repr

namespace Node

def isDirectory : Node → Bool
  | directory _ => true
  | _ => false

end Node

/-- Where a path leads once every link on the way is followed: the names on the way from the root,
the innermost first. -/
abbrev Place := List Path.Name

namespace FileSystem

def rootMode : Mode := 0o755

def nodeAt (nodes : List (Place × Node)) : Place → Option Node
  | [] => some (.directory rootMode)
  | place => Table.get? place nodes

def isDirectoryAt (nodes : List (Place × Node)) (place : Place) : Bool :=
  (nodeAt nodes place).any Node.isDirectory

theorem isDirectoryAt_iff {nodes : List (Place × Node)} {place : Place} :
    isDirectoryAt nodes place ↔ ∃ mode, nodeAt nodes place = some (.directory mode) := by
  rw [isDirectoryAt]
  rcases nodeAt nodes place with _ | _ | _ | _ | _ <;> simp [Node.isDirectory]

def Rooted (nodes : List (Place × Node)) : Prop :=
  ∀ entry ∈ nodes, isDirectoryAt nodes entry.1.tail

theorem nodeAt_put (place : Place) (node : Node) (nodes : List (Place × Node)) (p : Place) :
    nodeAt (Table.put place node nodes) p =
      if p = place ∧ p ≠ [] then some node else nodeAt nodes p := by
  cases p with
  | nil => simp [nodeAt]
  | cons name rest => simp [nodeAt, Table.get?_put]

theorem nodeAt_filter (keep : Place → Bool) {nodes : List (Place × Node)} {p : Place}
    (h : keep p = true) : nodeAt (nodes.filter fun entry => keep entry.1) p = nodeAt nodes p := by
  cases p with
  | nil => rfl
  | cons name rest => exact Table.get?_filter h nodes

theorem Rooted.put {nodes : List (Place × Node)} (h : Rooted nodes) {place : Place} {node : Node}
    (hparent : isDirectoryAt nodes place.tail)
    (hbelow : node.isDirectory ∨ ∀ entry ∈ nodes, entry.1.tail ≠ place) :
    Rooted (Table.put place node nodes) := by
  intro entry hentry
  rw [isDirectoryAt, nodeAt_put]
  rcases Table.mem_put hentry with rfl | hold
  · have hne : ¬(place.tail = place ∧ place.tail ≠ []) := by
      cases place <;> simp
    rwa [if_neg hne]
  · split
    · next hp => simpa using hbelow.resolve_right fun hnone => hnone entry hold hp.1
    · exact h entry hold

theorem Rooted.remove {nodes : List (Place × Node)} (h : Rooted nodes) (place : Place) :
    Rooted (nodes.filter fun entry => !place.isSuffixOf entry.1) := by
  intro entry hentry
  obtain ⟨hold, hkept⟩ := List.mem_filter.1 hentry
  have htail : (!place.isSuffixOf entry.1.tail) = true := by
    simp only [Bool.not_eq_true', ← Bool.not_eq_true, List.isSuffixOf_iff_suffix] at hkept ⊢
    exact fun hs => hkept (hs.trans (List.tail_suffix entry.1))
  rw [isDirectoryAt, nodeAt_filter (fun p => !place.isSuffixOf p) htail]
  exact h entry hold

end FileSystem

structure FileSystem where
  nodes : List (Place × Node)
  workDir : Place
  distinct : (nodes.map Prod.fst).Nodup
  rooted : FileSystem.Rooted nodes
  deriving DecidableEq

namespace FileSystem

def empty : FileSystem := ⟨[], [], by simp, by simp [Rooted]⟩

def node? (fs : FileSystem) (place : Place) : Option Node := nodeAt fs.nodes place

/-- Whether a node can take a place: there is a directory to hold it, and it is a directory itself
if there are entries that it has to hold. -/
def fits (fs : FileSystem) (place : Place) (node : Node) : Bool :=
  isDirectoryAt fs.nodes place.tail &&
    (node.isDirectory || fs.nodes.all fun entry => entry.1.tail ≠ place)

theorem rooted_put {fs : FileSystem} {place : Place} {node : Node}
    (h : fs.fits place node = true) : Rooted (Table.put place node fs.nodes) := by
  simp only [fits, Bool.and_eq_true, Bool.or_eq_true, List.all_eq_true, decide_eq_true_eq] at h
  exact fs.rooted.put h.1 h.2

def put (fs : FileSystem) (place : Place) (node : Node) : FileSystem :=
  if h : fs.fits place node = true then
    { fs with
      nodes := Table.put place node fs.nodes
      distinct := Table.nodup_put place node fs.distinct
      rooted := rooted_put h }
  else fs

def remove (fs : FileSystem) (place : Place) : FileSystem :=
  { fs with
    nodes := fs.nodes.filter fun entry => !place.isSuffixOf entry.1
    distinct := fs.distinct.sublist (List.filter_sublist.map Prod.fst)
    rooted := fs.rooted.remove place }

def names (fs : FileSystem) (dir : Place) : List Path.Name :=
  fs.nodes.filterMap fun entry =>
    match entry.1 with
    | [] => none
    | name :: parent => if parent = dir then some name else none

theorem node?_put {fs : FileSystem} {place : Place} {node : Node} (hplace : place ≠ [])
    (h : fs.fits place node = true) (p : Place) :
    (fs.put place node).node? p = if p = place then some node else fs.node? p := by
  rw [put, dif_pos h, node?, nodeAt_put]
  by_cases hp : p = place <;> simp [hp, hplace, node?]

@[simp] theorem workDir_put (fs : FileSystem) (place : Place) (node : Node) :
    (fs.put place node).workDir = fs.workDir := by
  unfold put
  split <;> rfl

theorem node?_tail {fs : FileSystem} {place : Place} {node : Node}
    (h : fs.node? place = some node) : ∃ mode, fs.node? place.tail = some (.directory mode) := by
  cases place with
  | nil => exact ⟨rootMode, rfl⟩
  | cons name dir => exact isDirectoryAt_iff.1 (fs.rooted _ (Table.mem_of_get? h))

theorem fits_directory {fs : FileSystem} {dir : Place} {old : Mode}
    (h : fs.node? dir = some (.directory old)) (name : Path.Name) (mode : Mode) :
    fs.fits (name :: dir) (.directory mode) = true := by
  have hdir : isDirectoryAt fs.nodes dir := isDirectoryAt_iff.2 ⟨old, h⟩
  simp [fits, hdir, Node.isDirectory]

theorem fits_of_node? {fs : FileSystem} {place : Place} {old : Node}
    (h : fs.node? place = some old) (hold : old.isDirectory = false) (node : Node) :
    fs.fits place node = true := by
  have hdir : isDirectoryAt fs.nodes place.tail := isDirectoryAt_iff.2 (node?_tail h)
  have hnone : ∀ entry ∈ fs.nodes, entry.1.tail ≠ place := by
    intro entry hentry he
    have hd := fs.rooted entry hentry
    rw [he, isDirectoryAt, show nodeAt fs.nodes place = some old from h] at hd
    simp [hold] at hd
  simp only [fits, hdir, Bool.true_and, Bool.or_eq_true, List.all_eq_true, decide_eq_true_eq]
  exact .inr hnone

end FileSystem

end BpfBoot
