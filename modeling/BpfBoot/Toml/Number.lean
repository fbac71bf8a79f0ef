import BpfBoot.Text.Decimal
import BpfBoot.Text.Hex
import BpfBoot.Toml.Value

namespace BpfBoot.Toml

def moreDigits (digit : Char → Bool) : List Char → Except Fault (List Char × List Char)
  | '_' :: c :: rest =>
    if digit c then (moreDigits digit rest).map fun r => (c :: r.1, r.2) else .error .number
  | c :: rest =>
    if digit c then (moreDigits digit rest).map fun r => (c :: r.1, r.2)
    else if c = '_' then .error .number
    else .ok ([], c :: rest)
  | [] => .ok ([], [])

def digits (digit : Char → Bool) : List Char → Except Fault (List Char × List Char)
  | c :: rest =>
    if digit c then (moreDigits digit rest).map fun r => (c :: r.1, r.2) else .error .number
  | [] => .error .number

def sign : List Char → Bool × List Char
  | '-' :: rest => (true, rest)
  | '+' :: rest => (false, rest)
  | cs => (false, cs)

def wholeDigits : List Char → Except Fault (List Char × List Char)
  | '0' :: rest => .ok (['0'], rest)
  | cs => digits Text.isDigit cs

def inInt64 (n : Int) : Bool := -0x8000000000000000 ≤ n && n < 0x8000000000000000

def integerValue (n : Int) : Except Fault Value :=
  if inInt64 n then .ok (.integer n) else .error .number

def radixValue (radix : Nat) (ds : List Char) : Int :=
  (ds.foldl (fun n c => radix * n + (Text.hexDigit? c).getD 0) 0 : Nat)

def radixInteger (radix : Nat) (cs : List Char) : Except Fault (Value × List Char) := do
  let (ds, rest) ← digits (fun c => (Text.hexDigit? c).any (· < radix)) cs
  return (← integerValue (radixValue radix ds), rest)

def fraction : List Char → Except Fault (List Char × List Char)
  | '.' :: rest => digits Text.isDigit rest
  | cs => .ok ([], cs)

def exponent : List Char → Except Fault (Option Int × List Char)
  | c :: rest =>
    if c = 'e' || c = 'E' then do
      let (minus, rest) := sign rest
      let (ds, rest) ← digits Text.isDigit rest
      let n : Int := Text.ofDigits ds
      return (some (if minus then -n else n), rest)
    else .ok (none, c :: rest)
  | [] => .ok (none, [])

/-- The least number that is nearer to infinity than to the greatest double-precision number. -/
def overflowFrom : Nat := (1 <<< 1024) - (1 <<< 970)

/-- Whether `mantissa * 10 ^ power` rounds to infinity. The number of digits decides for numbers
far from the limit. -/
def overflows (mantissa : Nat) (power : Int) : Bool :=
  let size : Int := (Nat.toDigits 10 mantissa).length + power
  if mantissa = 0 || size < 300 then false
  else if 320 < size then true
  else if 0 ≤ power then overflowFrom ≤ mantissa * Nat.pow 10 power.toNat
  else overflowFrom * Nat.pow 10 (-power).toNat ≤ mantissa

def decimal (cs : List Char) : Except Fault (Value × List Char) := do
  let (minus, unsigned) := sign cs
  let (whole, afterWhole) ← wholeDigits unsigned
  let (places, afterPlaces) ← fraction afterWhole
  let (power, rest) ← exponent afterPlaces
  if places.isEmpty && power.isNone then
    let n : Int := Text.ofDigits whole
    return (← integerValue (if minus then -n else n), rest)
  else if !minus && overflows (Text.ofDigits (whole ++ places)) (power.getD 0 - places.length) then
    throw .number
  else
    return (.float (String.ofList (cs.take (cs.length - rest.length))), rest)

def number : List Char → Except Fault (Value × List Char)
  | '0' :: 'x' :: rest => radixInteger 16 rest
  | '0' :: 'o' :: rest => radixInteger 8 rest
  | '0' :: 'b' :: rest => radixInteger 2 rest
  | cs =>
    match (sign cs).2 with
    | 'i' :: 'n' :: 'f' :: rest => .ok (.float "inf", rest)
    | 'n' :: 'a' :: 'n' :: rest => .ok (.float "nan", rest)
    | _ => decimal cs

end BpfBoot.Toml
