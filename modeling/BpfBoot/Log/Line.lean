import BpfBoot.Log.Event
import BpfBoot.Text.Hex
import BpfBoot.Text.Unprintable

namespace BpfBoot

def quoteChar (c : Char) : List Char :=
  if c = '"' then ['\\', '"']
  else if c = '\\' then ['\\', '\\']
  else if c = '\n' then ['\\', 'n']
  else if c = '\r' then ['\\', 'r']
  else if c = '\t' then ['\\', 't']
  else if c.toNat = 0 then ['\\', '0']
  else if Text.isUnprintable c then
    ['\\', 'u', '\x7b'] ++ Nat.toDigits 16 c.toNat ++ ['\x7d']
  else [c]

def quote (s : String) : String := "\"" ++ String.ofList (s.toList.flatMap quoteChar) ++ "\""

/-- Control characters of ASCII that steer a terminal: bell, backspace, form feed, escape and
delete. -/
def steeringCodes : List Nat := [0x07, 0x08, 0x0C, 0x1B, 0x7F]

def messageChar (c : Char) : List Char :=
  if steeringCodes.contains c.toNat then ['\\', 'x'] ++ (Text.paddedHex 2 c.toNat).toList
  else if 0x80 ≤ c.toNat ∧ c.toNat ≤ 0x9F then
    ['\\', 'u', '\x7b'] ++ Nat.toDigits 16 c.toNat ++ ['\x7d']
  else [c]

namespace Datum

def shown : Datum → String
  | plain text => text
  | quoted text => quote text
  | number n => toString n
  | flag b => if b then "true" else "false"

end Datum

namespace Event

def shownMessage (e : Event) : String := String.ofList (e.message.toList.flatMap messageChar)

def line (e : Event) : String :=
  let level := String.ofList (List.replicate (5 - e.level.name.length) ' ') ++ e.level.name
  let fields := e.fields.map fun field => " " ++ field.1 ++ "=" ++ field.2.shown
  level ++ " " ++ e.origin.target ++ ": " ++ e.shownMessage ++ String.join fields

end Event

end BpfBoot
