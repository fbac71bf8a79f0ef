import BpfBoot.Text.Blank
import BpfBoot.Text.Decimal
import BpfBoot.Text.Hex
import BpfBoot.Text.Lines

namespace BpfBoot

structure Version where
  major : UInt32
  minor : UInt32
  patch : UInt32
  deriving DecidableEq, Repr

namespace Version

def releaseParts (cs : List Char) : List Char × Option (List Char) × Option (List Char) :=
  match Text.splitOnce '.' cs with
  | none => (cs, none, none)
  | some (major, rest) =>
    match Text.splitOnce '.' rest with
    | none => (major, some rest, none)
    | some (minor, patch) => (major, some minor, some patch)

/-- Reads `5.15.123-android14-11`. Only the digits at the start of each component count. There
must be a major number; a missing or unreadable minor or patch number is zero. -/
def ofRelease? (release : String) : Option Version :=
  let (major, minor, patch) := releaseParts (Text.trim release.toList)
  let orZero (part : Option (List Char)) : UInt32 := (part.bind Text.leadingWord32?).getD 0
  (Text.leadingWord32? major).map (⟨·, orZero minor, orZero patch⟩)

def text (v : Version) : String :=
  toString v.major.toNat ++ "." ++ toString v.minor.toNat ++ "." ++ toString v.patch.toNat

/-- The packed form: major from bit 16 on (higher bits are lost), then minor and patch in one
octet each, where 255 stands for anything larger. -/
def code (v : Version) : UInt32 :=
  (v.major <<< 16) ||| (min v.minor 255 <<< 8) ||| min v.patch 255

def codeText (v : Version) : String := Text.paddedHex 7 v.code.toNat

def compare (v w : Version) : Ordering :=
  (Ord.compare v.major w.major).then
    ((Ord.compare v.minor w.minor).then (Ord.compare v.patch w.patch))

def atLeast (v least : Version) : Bool := (v.compare least).isGE

end Version

end BpfBoot
