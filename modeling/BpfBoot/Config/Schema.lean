import BpfBoot.Config.Basic
import BpfBoot.Toml.Reader

namespace BpfBoot.Config

open Toml (Value Entries)

inductive Mismatch where
  | unreadable (fault : Toml.Fault)
  | unknownKey (key : String)
  | wrongType (key : String)
  | tooShort (size : Nat)
  deriving DecidableEq, Repr

def Mismatch.message : Mismatch → String
  | .unreadable fault => fault.message
  | .unknownKey key => "unknown key '" ++ key ++ "'"
  | .wrongType key => "value of the wrong type for '" ++ key ++ "'"
  | .tooShort size => "expected an array of " ++ toString size ++ " values"

/-- A section is a table, or an array with the values of its keys in their fixed order. -/
def sectionEntries (name : String) (keys : List String) (whole : Bool) :
    Value → Except Mismatch Entries
  | .table _ entries =>
    match entries.find? fun entry => !keys.contains entry.1 with
    | some entry => .error (.unknownKey entry.1)
    | none => .ok entries
  | .array items =>
    if whole && items.length < keys.length then .error (.tooShort keys.length)
    else .ok (keys.zip items)
  | _ => .error (.wrongType name)

def string? (entries : Entries) (key : String) : Except Mismatch (Option String) :=
  match Table.get? key entries with
  | none => .ok none
  | some (.string s) => .ok (some s)
  | some _ => .error (.wrongType key)

def count? (entries : Entries) (key : String) : Except Mismatch (Option Nat) :=
  match Table.get? key entries with
  | none => .ok none
  | some (.integer (.ofNat n)) => .ok (some n)
  | some _ => .error (.wrongType key)

def pathKeys : List String :=
  ["root", "platform_entry", "module_entry", "second_stage", "legacy_loader", "legacy_init_rc",
    "new_init_rc", "module_mount", "mounts_table", "pin_root", "proc_sys", "build_props"]

def pathChoices (given : Value) : Except Mismatch PathChoices := do
  let entries ← sectionEntries "paths" pathKeys true given
  return {
    root := ← string? entries "root"
    platformEntry := ← string? entries "platform_entry"
    moduleEntry := ← string? entries "module_entry"
    secondStage := ← string? entries "second_stage"
    legacyLoader := ← string? entries "legacy_loader"
    legacyScript := ← string? entries "legacy_init_rc"
    newScript := ← string? entries "new_init_rc"
    moduleMount := ← string? entries "module_mount"
    mountsTable := ← string? entries "mounts_table"
    pinRoot := ← string? entries "pin_root"
    sysctlRoot := ← string? entries "proc_sys"
    buildProperties := ← string? entries "build_props" }

def loaderKeys : List String := ["helper", "critical_stall_secs"]

def logKeys : List String := ["level", "file"]

def sectionOf (entries : Entries) (name : String) : Value :=
  (Table.get? name entries).getD (.table .opened [])

def choices (entries : Entries) : Except Mismatch Choices := do
  let entries ← sectionEntries "" ["paths", "loader", "log"] true (.table .opened entries)
  let paths ← pathChoices (sectionOf entries "paths")
  let loader ← sectionEntries "loader" loaderKeys false (sectionOf entries "loader")
  let log ← sectionEntries "log" logKeys false (sectionOf entries "log")
  return {
    paths
    helper := ← string? loader "helper"
    stall := (← count? loader "critical_stall_secs").getD defaultStall
    logLevel := (← string? log "level").getD defaultLogLevel
    logFile := (← string? log "file").getD defaultLogFile }

def Choices.ofText (text : String) : Except Mismatch Choices := do
  choices (← (Toml.document text).mapError .unreadable)

end BpfBoot.Config
