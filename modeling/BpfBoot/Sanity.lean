import BpfBoot.Machine
import BpfBoot.Object.Words

namespace BpfBoot

open Text (Octets)

structure MapShape where
  kind : UInt32
  keySize : UInt32
  valueSize : UInt32
  maxEntries : UInt32
  flags : UInt32
  deriving DecidableEq, Repr

/-- The two primitives on maps. `Handle` is what names a map once it is created. -/
structure MapPrimitives (σ : Type) where
  Handle : Type
  create : MapShape → StateM (Machine × σ) (Except IoFault Handle)
  write : Handle → Octets → Octets → UInt64 → StateM (Machine × σ) (Except IoFault Unit)

namespace Sanity

def arrayKind : UInt32 := 2

def shape : MapShape := ⟨arrayKind, 4, 4, 2, 0⟩

def key : Octets := Object.wordOctets 4 1

def value : Octets := Object.wordOctets 4 123

def attempt {σ : Type} (maps : MapPrimitives σ) : Boot σ (Except IoFault Unit) := do
  match ← Boot.perform .createMap (maps.create shape) with
  | .error fault => return .error fault
  | .ok handle => Boot.perform .writeMap (maps.write handle key value 0)

def failureText (fault : IoFault) : String :=
  "Critical kernel bug - failure to write into index 1 of 2 element bpf map array: " ++
    fault.message

def check {σ : Type} (maps : MapPrimitives σ) : Boot σ Unit := do
  match ← attempt maps with
  | .ok () => Boot.tell ⟨.debug, .sanity, "map write sanity check passed", []⟩
  | .error fault =>
    Boot.tell ⟨.error, .sanity, failureText fault, []⟩
    throw (.sanity (failureText fault))

end Sanity

end BpfBoot
