import BpfBoot.Text.Decimal
import BpfBoot.Toml.Value

namespace BpfBoot.Toml

def fixedDigits? (count : Nat) (cs : List Char) : Option (Nat × List Char) :=
  let ds := cs.take count
  if ds.length = count && ds.all Text.isDigit then some (Text.ofDigits ds, cs.drop count) else none

def exactly? (c : Char) : List Char → Option (List Char)
  | d :: rest => if c = d then some rest else none
  | [] => none

def within? (low high : Nat) (cs : List Char) : Option (Nat × List Char) := do
  let (n, rest) ← fixedDigits? 2 cs
  if low ≤ n && n ≤ high then some (n, rest) else none

def daysIn (year month : Nat) : Nat :=
  if month = 2 then (if year % 4 = 0 && (year % 100 ≠ 0 || year % 400 = 0) then 29 else 28)
  else if month = 4 || month = 6 || month = 9 || month = 11 then 30
  else 31

def date? (cs : List Char) : Option (List Char) := do
  let (year, rest) ← fixedDigits? 4 cs
  let (month, rest) ← within? 1 12 (← exactly? '-' rest)
  let (_, rest) ← within? 1 (daysIn year month) (← exactly? '-' rest)
  some rest

/-- What is left after a time of day; a sixtieth second may be a leap second. -/
def time? (cs : List Char) : Option (List Char) := do
  let (_, rest) ← within? 0 23 cs
  let (_, rest) ← within? 0 59 (← exactly? ':' rest)
  let (_, rest) ← within? 0 60 (← exactly? ':' rest)
  match rest with
  | '.' :: c :: more => if Text.isDigit c then some (more.dropWhile Text.isDigit) else none
  | '.' :: [] => none
  | _ => some rest

def skipOffset : List Char → List Char
  | 'Z' :: rest => rest
  | 'z' :: rest => rest
  | c :: rest =>
    if c = '+' || c = '-' then
      (do
        let (_, after) ← within? 0 23 rest
        let (_, after) ← within? 0 59 (← exactly? ':' after)
        some after).getD (c :: rest)
    else c :: rest
  | [] => []

def skipTime : List Char → List Char
  | c :: rest =>
    if c = 'T' || c = 't' || c = ' ' then ((time? rest).map skipOffset).getD (c :: rest)
    else c :: rest
  | [] => []

def moment? (cs : List Char) : Option (Value × List Char) :=
  ((date? cs).map skipTime <|> time? cs).map fun rest =>
    (.moment (String.ofList (cs.take (cs.length - rest.length))), rest)

end BpfBoot.Toml
