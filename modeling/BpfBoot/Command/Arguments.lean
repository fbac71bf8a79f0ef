namespace BpfBoot.Command

structure Options where
  configPath : Option String
  verbosity : UInt8
  deriving DecidableEq, Repr

inductive Request where
  | help
  | missingPath
  | boot (options : Options)
  deriving DecidableEq, Repr

def usage : String :=
  "Usage: netbpfload [OPTIONS]\n\nOptions:\n" ++
    "  -h, --help                 Print help\n" ++
    "  -f, --config <PATH>        Path to configuration file (default: built-in layout)\n" ++
    "  -v, -vv, -vvv, -vvvv       Increase logging verbosity\n"

def addVerbosity (v more : UInt8) : UInt8 := if 255 - v < more then 255 else v + more

def countV? (argument : String) : Option Nat :=
  match argument.toList with
  | '-' :: c :: rest => if (c :: rest).all (· = 'v') then some (rest.length + 1) else none
  | _ => none

/-- Unknown arguments are passed over. The count of a flag is taken in eight bits before it is
added. -/
def read (options : Options) : List String → Request
  | [] => .boot options
  | argument :: rest =>
    if argument = "--" then .boot options
    else if argument = "-h" ∨ argument = "--help" then .help
    else if argument = "-f" ∨ argument = "--config" then
      match rest with
      | [] => .missingPath
      | path :: rest => read { options with configPath := some path } rest
    else if argument = "--verbose" then
      read { options with verbosity := addVerbosity options.verbosity 1 } rest
    else match countV? argument with
      | some count =>
        read { options with verbosity := addVerbosity options.verbosity (UInt8.ofNat count) } rest
      | none => read options rest

def Request.ofArguments (arguments : List String) : Request := read ⟨none, 0⟩ arguments

def levelOf? (verbosity : UInt8) : Option String :=
  match verbosity.toNat with
  | 0 => none
  | 1 => some "warn"
  | 2 => some "info"
  | 3 => some "debug"
  | _ => some "trace"

end BpfBoot.Command
