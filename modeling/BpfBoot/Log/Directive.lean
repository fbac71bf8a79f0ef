import BpfBoot.Log.Event
import BpfBoot.Log.Pattern.Reader
import BpfBoot.Text.Blank
import BpfBoot.Text.Decimal

namespace BpfBoot

/-- The gravest events that pass, by rank: `0` lets none pass, `5` lets all. -/
abbrev Threshold := Nat

namespace Threshold

def all : Threshold := 5

def names : List (String × Threshold) :=
  [("off", 0), ("error", 1), ("warn", 2), ("info", 3), ("debug", 4), ("trace", all)]

def ofChars? (cs : List Char) : Option Threshold :=
  match Text.word32? cs with
  | some rank => if rank.toNat ≤ all then some rank.toNat else none
  | none => names.lookup (String.ofList (cs.map Char.toLower))

end Threshold

inductive Demand where
  | field (name : String)
  /-- A span around it, that is, a stretch of the run with a name and values of its own. No event
  has one. -/
  | span
  deriving DecidableEq, Repr

namespace Demand

def messageField : String := "message"

def isMet (e : Event) : Demand → Bool
  | field name => name = messageField || e.fields.any fun field => field.1 = name
  | span => false

def value? (field : List Char) : Option (List Char) :=
  match field.dropWhile (· ≠ '=') with
  | [] => none
  | _ :: rest => some (rest.takeWhile (· ≠ '='))

def isValue (cs : List Char) : Bool := Text.isReal cs || Pattern.isWellFormed cs

def ofField? (around inner : List Char) : Option Demand :=
  if inner.isEmpty then none
  else match value? inner with
    | some value => if isValue value then some span else none
    | none => if around.isEmpty then some (field (String.ofList inner)) else some span

/-- What stands after an opening bracket up to the closing one, and the text that follows: the
name of a span, or after a name that may be missing one field between braces. The field is taken
from `text`. -/
def read? (text cs : List Char) : Option (Demand × List Char) :=
  let (around, rest) := cs.span fun c => c ≠ ']' && c ≠ '\x7b'
  match rest with
  | ']' :: rest => some (span, rest)
  | '\x7b' :: rest =>
    let (inner, rest) := rest.span (· ≠ '\x7d')
    match rest with
    | '\x7d' :: ']' :: rest =>
      (ofField? around ((text.drop (around.length + 1)).take inner.length)).map
        fun demand => (demand, rest)
    | _ => none
  | _ => none

end Demand

structure Selector where
  target : String
  demand : Option Demand
  deriving DecidableEq, Repr

namespace Selector

def selects (s : Selector) (e : Event) : Bool :=
  s.target.toList.isPrefixOf e.origin.target.toList && s.demand.all (·.isMet e)

/-- Of two selectors that both select an event the one with the longer target is the closer one,
then the one with a demand, and then the one whose demanded name is greater. -/
def isAsCloseAs (s other : Selector) : Bool :=
  if s.target.length ≠ other.target.length then other.target.length < s.target.length
  else match s.demand, other.demand with
    | some (.field name), some (.field other) => !decide (name < other)
    | none, some _ => false
    | _, _ => true

def startsTarget (c : Char) : Bool :=
  Text.isAlphanumeric c || c = '-' || c = ':' || c = '_'

def levelAfter? (text : List Char) : List Char → Option (Option (List Char))
  | '=' :: _ => some (some text.tail)
  | blanks => if blanks.all Text.isBlank then some none else none

def readDemand? (target : String) (text cs : List Char) :
    Option (Selector × Option (List Char)) := do
  let (demand, rest) ← Demand.read? text cs
  let level ← levelAfter? (text.drop (cs.length - rest.length)) rest
  return (⟨target, some demand⟩, level)

def read? (text cs : List Char) : Option (Selector × Option (List Char)) :=
  match cs with
  | [] => none
  | '[' :: rest => readDemand? "" text.tail rest
  | first :: _ =>
    if !startsTarget first then none
    else
      let (name, rest) := cs.span fun c => c ≠ '=' && c ≠ '['
      let target := String.ofList (text.take name.length)
      match rest with
      | '[' :: rest => readDemand? target (text.drop (name.length + 1)) rest
      | '=' :: _ => some (⟨target, none⟩, some (text.drop (name.length + 1)))
      | _ => some (⟨String.ofList text, none⟩, none)

end Selector

inductive Directive.Fault where
  | malformed
  | noLevel
  deriving DecidableEq, Repr

def Directive.Fault.message : Directive.Fault → String
  | malformed => "invalid filter directive"
  | noLevel =>
    "error parsing level filter: expected one of \"off\", \"error\", \"warn\", \"info\", " ++
      "\"debug\", \"trace\", or a number 0-5"

/-- A level for all events, as in `info`, or one for the events of a part, as in
`netbpfload::sysctl=debug`, or for those with a value under some name, as in
`netbpfload[{path}]=warn`. -/
structure Directive where
  selector : Selector
  threshold : Threshold
  deriving DecidableEq, Repr

namespace Directive

def general (threshold : Threshold) : Directive := ⟨⟨"", none⟩, threshold⟩

def ofSelector (selector : Selector) : Option (List Char) → Except Fault Directive
  | none | some [] => .ok ⟨selector, .all⟩
  | some level =>
    match Threshold.ofChars? level with
    | some threshold => .ok ⟨selector, threshold⟩
    | none => .error .noLevel

/-- The blanks that a directive starts with count where its parts are told apart as if they stood
at its end, but they are in the text that the parts are taken from. So a directive with a blank
before its target speaks of no event, and a level cannot follow. -/
def ofChars (cs : List Char) : Except Fault Directive :=
  match Selector.read? cs (Text.trimStart cs), Threshold.ofChars? cs with
  | none, _ => .error .malformed
  | some _, some threshold => .ok (general threshold)
  | some (selector, level), none => ofSelector selector level

end Directive

end BpfBoot
