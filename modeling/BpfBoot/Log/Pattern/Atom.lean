import BpfBoot.Text.Blank
import BpfBoot.Text.Hex

namespace BpfBoot.Pattern

structure Modes where
  verbose : Bool := false
  ignoreCase : Bool := false
  unicode : Bool := true
  deriving DecidableEq, Repr

def dropIdle : Bool → List Char → List Char
  | _, [] => []
  | true, c :: rest => dropIdle (c ≠ '\n') rest
  | false, c :: rest =>
    if c = '#' then dropIdle true rest
    else if Text.isBlank c then dropIdle false rest
    else c :: rest

namespace Modes

def skip (m : Modes) (cs : List Char) : List Char := if m.verbose then dropIdle false cs else cs

def flags : List Char := ['i', 'm', 's', 'U', 'u', 'R', 'x']

/-- Flags stand once each. Those behind a minus sign, of which there is one at most, are switched
off; it may not stand last. -/
def areFlags (cs : List Char) : Bool :=
  cs.all (fun c => c = '-' || flags.contains c) && decide cs.Nodup &&
    cs.getLast? ≠ some '-'

def switched (flags : List Char) (flag : Char) (now : Bool) : Bool :=
  if (flags.takeWhile (· ≠ '-')).contains flag then true
  else if flags.contains flag then false
  else now

def set (m : Modes) (flags : List Char) : Modes :=
  { verbose := switched flags 'x' m.verbose
    ignoreCase := switched flags 'i' m.ignoreCase
    unicode := switched flags 'u' m.unicode }

end Modes

inductive Atom where
  | literal (c : Char) (octet : Bool)
  | family (negated : Bool)
  | anyCharacter
  | edge (ofWord : Bool)
  deriving DecidableEq, Repr

namespace Atom

def isAscii (c : Char) : Bool := c.toNat < 0x80

/-- No tables of letter cases or of classes of letters are at hand, so whatever would need one is
refused; and so is what could match octets that are no text. -/
def isAllowed (m : Modes) : Atom → Bool
  | literal c octet => if m.unicode then !m.ignoreCase else !octet || isAscii c
  | family negated => !m.unicode && !negated
  | anyCharacter => m.unicode
  | edge ofWord => !ofWord || !m.unicode

def isMember (m : Modes) : Atom → Bool
  | literal c _ => if m.unicode then !m.ignoreCase else isAscii c
  | family negated => !m.unicode && !negated
  | _ => false

def hexDigits (m : Modes) : Nat → Nat → List Char → Option (Nat × List Char)
  | 0, n, cs => some (n, cs)
  | count + 1, n, cs =>
    match m.skip cs with
    | [] => none
    | c :: rest => (Text.hexDigit? c).bind fun digit => hexDigits m count (16 * n + digit) rest

def byNumber (m : Modes) (count : Nat) (cs : List Char) : Option (Atom × List Char) :=
  (hexDigits m count 0 cs).bind fun read =>
    if read.1.isValidChar then some (literal (Char.ofNat read.1) (count = 2), read.2) else none

def letters : List (Char × Char) :=
  [('a', '\x07'), ('f', '\x0c'), ('n', '\n'), ('r', '\r'), ('t', '\t'), ('v', '\x0b')]

def escaped (m : Modes) : List Char → Option (Atom × List Char)
  | [] => none
  | c :: rest =>
    if c = 'x' then byNumber m 2 rest
    else if c = 'u' then byNumber m 4 rest
    else if c = 'U' then byNumber m 8 rest
    else if ['d', 's', 'w'].contains c then some (family false, rest)
    else if ['D', 'S', 'W'].contains c then some (family true, rest)
    else if ['A', 'z'].contains c then some (edge false, rest)
    else if ['b', 'B', '<', '>'].contains c then some (edge true, rest)
    else match letters.lookup c with
      | some char => some (literal char false, rest)
      | none => if isAscii c && !c.isAlphanum then some (literal c false, rest) else none

end Atom

end BpfBoot.Pattern
