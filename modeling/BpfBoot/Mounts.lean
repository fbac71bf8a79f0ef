import BpfBoot.Files.Access
import BpfBoot.Log.Event
import BpfBoot.Text.Lines

namespace BpfBoot.Mounts

structure Row where
  device : List Char
  mount : List Char
  deriving DecidableEq, Repr

def row? (line : List Char) : Option Row :=
  match Text.splitAll ' ' line with
  | device :: mount :: _ => some ⟨device, mount⟩
  | _ => none

def rows (table : String) : List Row := (Text.lines table.toList).filterMap row?

def after? (stem cs : List Char) : Option (List Char) :=
  if stem.isPrefixOf cs then some (cs.drop stem.length) else none

def versionsOf (device mount : List Char) (rows : List Row) : List String :=
  (rows.filter (·.device = device)).filterMap fun row =>
    (after? (mount ++ ['@']) row.mount).map String.ofList

/-- The module is mounted from one device at its mount point, and at the mount point followed by `@`
and its version. The device is that of the first row for the mount point. -/
def versions (table mount : String) : Logged (List String) :=
  match (rows table).find? (·.mount = mount.toList) with
  | none => return []
  | some row => do
    Logged.tell ⟨.debug, .mounts, "module mounted from block device",
      [("blockdev", .plain (String.ofList row.device)), ("mount_point", .quoted mount)]⟩
    return versionsOf row.device mount.toList (rows table)

def logVersions (fs : FileSystem) (table mount : Path) : Logged Unit :=
  match fs.readText table with
  | .error fault =>
    Logged.tell ⟨.debug, .mounts, "cannot read mounts table",
      [("path", .plain table.display), ("error", .plain fault.message)]⟩
  | .ok text => do
    let found ← versions text mount.display
    if found.isEmpty then
      Logged.tell ⟨.debug, .mounts, "module version not found",
        [("mount_point", .plain mount.display)]⟩
    found.forM fun version =>
      Logged.tell ⟨.info, .mounts, "Tethering APEX version", [("version", .plain version)]⟩

end BpfBoot.Mounts
