import BpfBoot.Log.Directive
import BpfBoot.Text.Lines

namespace BpfBoot

structure Filter where
  directives : List Directive
  deriving DecidableEq, Repr

namespace Filter

def ofString (s : String) : Except Directive.Fault Filter :=
  let given := (Text.splitAll ',' s.toList).filter (!·.isEmpty)
  (given.mapM Directive.ofChars).map Filter.mk

/-- The directive that decides about an event: the closest of those that select it, and of
equally close ones the last. -/
def deciding? (f : Filter) (e : Event) : Option Directive :=
  (f.directives.filter (·.selector.selects e)).foldl (fun best d =>
    match best with
    | none => some d
    | some b => if d.selector.isAsCloseAs b.selector then some d else some b) none

def passes (f : Filter) (e : Event) : Bool :=
  match f.deciding? e with
  | none => false
  | some d => e.level.rank ≤ d.threshold

end Filter

end BpfBoot
