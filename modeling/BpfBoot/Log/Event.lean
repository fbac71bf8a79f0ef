namespace BpfBoot

inductive Level where
  | error | warn | info | debug | trace
  deriving DecidableEq, Repr

namespace Level

def rank : Level → Nat
  | error => 1
  | warn => 2
  | info => 3
  | debug => 4
  | trace => 5

def name : Level → String
  | error => "ERROR"
  | warn => "WARN"
  | info => "INFO"
  | debug => "DEBUG"
  | trace => "TRACE"

end Level

inductive Origin where
  | command | pipeline | variant | mounts | probe | gate | sysctl | pin | sweep | helper | sanity
  | handoff
  deriving DecidableEq, Repr

def Origin.target : Origin → String
  | .command => "netbpfload"
  | .pipeline => "netbpfload::pipeline"
  | .variant => "netbpfload::variant"
  | .mounts => "netbpfload::mounts"
  | .probe => "netbpfload::kernel::probe"
  | .gate => "netbpfload::gate"
  | .sysctl => "netbpfload::sysctl"
  | .pin => "netbpfload::pin"
  | .sweep => "netbpfload::loader"
  | .helper => "netbpfload::loader::helper"
  | .sanity => "netbpfload::sanity"
  | .handoff => "netbpfload::handoff"

/-- A value beside a message. A quoted text is written between quotes in a log line, a plain one
as it stands. -/
inductive Datum where
  | plain (text : String)
  | quoted (text : String)
  | number (n : Int)
  | flag (b : Bool)
  deriving DecidableEq, Repr

structure Event where
  level : Level
  origin : Origin
  message : String
  fields : List (String × Datum)
  deriving DecidableEq, Repr

structure Logged (α : Type) where
  value : α
  events : List Event
  deriving Repr

namespace Logged

instance : Monad Logged where
  pure a := ⟨a, []⟩
  bind x f := ⟨(f x.value).value, x.events ++ (f x.value).events⟩

def tell (e : Event) : Logged Unit := ⟨(), [e]⟩

variable {α β : Type}

@[simp] theorem value_pure (a : α) : (pure a : Logged α).value = a := rfl

@[simp] theorem events_pure (a : α) : (pure a : Logged α).events = [] := rfl

@[simp] theorem value_bind (x : Logged α) (f : α → Logged β) :
    (x >>= f).value = (f x.value).value := rfl

@[simp] theorem events_bind (x : Logged α) (f : α → Logged β) :
    (x >>= f).events = x.events ++ (f x.value).events := rfl

end Logged

end BpfBoot
