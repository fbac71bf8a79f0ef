import BpfBoot.Table

namespace BpfBoot.Toml

/-- How a table came to be, which decides what may still be added to it: written between braces,
opened by a header of its own, or made on the way to what a header opened or a dotted key set. -/
inductive Making where
  | closed
  | opened
  | passed
  | dotted
  deriving DecidableEq, Repr

/-- Numbers that are no integers, dates and times are kept as written; `tables` are those that
headers in double brackets opened. -/
inductive Value where
  | string (s : String)
  | integer (n : Int)
  | float (written : String)
  | boolean (b : Bool)
  | moment (written : String)
  | array (items : List Value)
  | table (making : Making) (entries : List (String × Value))
  | tables (items : List (List (String × Value)))

abbrev Entries := List (String × Value)

inductive Fault where
  | unclosed (what : String)
  | escape
  | number
  | character
  | expected (what : String)
  | depth
  | duplicate (key : String)
  | notExtensible (key : String)
  deriving DecidableEq, Repr

def Fault.message : Fault → String
  | .unclosed what => "unclosed " ++ what
  | .escape => "invalid escape sequence"
  | .number => "invalid number"
  | .character => "invalid character"
  | .expected what => "expected " ++ what
  | .depth => "nested too deeply"
  | .duplicate key => "duplicate key '" ++ key ++ "'"
  | .notExtensible key => "key '" ++ key ++ "' cannot be extended"

end BpfBoot.Toml
