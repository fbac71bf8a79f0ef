import BpfBoot.Fault
import BpfBoot.Path

namespace BpfBoot

inductive BootError where
  | config (detail : String)
  | logger (detail : String)
  | unknownVariant (argv0 : String)
  | initLayout (detail : String)
  | probe (detail : String)
  | capability (detail : String)
  | sysctl (path : Path) (source : IoFault)
  | pinDir (path : Path) (source : IoFault)
  | criticalLoad (dir : Path) (errno : Errno)
  | sanity (detail : String)
  | exec (path : Path) (source : IoFault)
  deriving DecidableEq, Repr

namespace BootError

def message : BootError → String
  | config detail => "config error: " ++ detail
  | logger detail => "logger error: " ++ detail
  | unknownVariant argv0 =>
    "unable to determine if we're platform or mainline netbpfload (argv0: '" ++ argv0 ++ "')"
  | initLayout detail => "init layout error: " ++ detail
  | probe detail => "probe error: " ++ detail
  | capability detail => "kernel capability gate: " ++ detail
  | sysctl path source => "sysctl error: " ++ path.display ++ ": " ++ source.message
  | pinDir path source =>
    "failed to create directory " ++ path.display ++ ": " ++ source.message
  | criticalLoad dir errno =>
    "critical failure loading bpf programs from " ++ dir.display ++ " (errno " ++
      toString errno.toInt ++ ")"
  | sanity detail => "sanity check failed: " ++ detail
  | exec path source => "exec '" ++ path.display ++ "' failed: " ++ source.message

def source? : BootError → Option IoFault
  | sysctl _ source => some source
  | pinDir _ source => some source
  | exec _ source => some source
  | _ => none

def exitCode : BootError → UInt8
  | criticalLoad .. => 2
  | _ => 1

/-- The error number behind an error, below zero. -/
def errno? : BootError → Option Errno
  | criticalLoad _ errno => some (-errno.abs)
  | e => (e.source?.bind IoFault.code?).map fun code => -code

def errnoText (e : BootError) : String :=
  match e.errno? with
  | none => "None"
  | some code => "Some(" ++ toString code.toInt ++ ")"

end BootError

end BpfBoot
