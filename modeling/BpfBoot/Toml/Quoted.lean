import BpfBoot.Text.Hex
import BpfBoot.Toml.Value

namespace BpfBoot.Toml

def isPlain (c : Char) : Bool := c = '\t' || (' ' ≤ c && c ≠ '\x7f')

def codePoint? (digits : List Char) : Option Char := do
  let values ← digits.mapM Text.hexDigit?
  let code := values.foldl (fun n d => 16 * n + d) 0
  if code.isValidChar then some (Char.ofNat code) else none

def escaped? : Char → Option Char
  | 'b' => some '\x08'
  | 't' => some '\t'
  | 'n' => some '\n'
  | 'f' => some '\x0c'
  | 'r' => some '\r'
  | '"' => some '"'
  | '\\' => some '\\'
  | _ => none

def andThen (c : Option Char) (read : Except Fault (List Char × List Char)) :
    Except Fault (List Char × List Char) :=
  match c with
  | none => .error .escape
  | some c => read.map fun more => (c :: more.1, more.2)

def basic : List Char → Except Fault (List Char × List Char)
  | '"' :: rest => .ok ([], rest)
  | '\\' :: 'u' :: a :: b :: c :: d :: rest => andThen (codePoint? [a, b, c, d]) (basic rest)
  | '\\' :: 'U' :: a :: b :: c :: d :: e :: f :: g :: h :: rest =>
    andThen (codePoint? [a, b, c, d, e, f, g, h]) (basic rest)
  | '\\' :: c :: rest => andThen (escaped? c) (basic rest)
  | c :: rest => if isPlain c then andThen (some c) (basic rest) else .error .character
  | [] => .error (.unclosed "string")

def literal : List Char → Except Fault (List Char × List Char)
  | '\'' :: rest => .ok ([], rest)
  | c :: rest => if isPlain c then andThen (some c) (literal rest) else .error .character
  | [] => .error (.unclosed "string")

/-- Where a basic string on several lines stands after a backslash at the end of a line: the
blanks before the line feed, and the blanks and line ends after it, are left out. -/
inductive Gap where
  | none | before | after
  deriving DecidableEq

/-- A basic string on several lines, after its opening quotes. One or two quotes may stand right
before the closing three. A line ends with a line feed, however it is written. -/
def basicLines : Gap → List Char → Except Fault (List Char × List Char)
  | _, [] => .error (.unclosed "string")
  | .before, ' ' :: rest => basicLines .before rest
  | .before, '\t' :: rest => basicLines .before rest
  | .before, '\n' :: rest => basicLines .after rest
  | .before, '\r' :: '\n' :: rest => basicLines .after rest
  | .before, _ => .error .escape
  | .after, ' ' :: rest => basicLines .after rest
  | .after, '\t' :: rest => basicLines .after rest
  | .after, '\n' :: rest => basicLines .after rest
  | .after, '\r' :: '\n' :: rest => basicLines .after rest
  | _, '"' :: '"' :: '"' :: '"' :: '"' :: rest => .ok (['"', '"'], rest)
  | _, '"' :: '"' :: '"' :: '"' :: rest => .ok (['"'], rest)
  | _, '"' :: '"' :: '"' :: rest => .ok ([], rest)
  | _, '\\' :: ' ' :: rest => basicLines .before rest
  | _, '\\' :: '\t' :: rest => basicLines .before rest
  | _, '\\' :: '\n' :: rest => basicLines .after rest
  | _, '\\' :: '\r' :: '\n' :: rest => basicLines .after rest
  | _, '\\' :: 'u' :: a :: b :: c :: d :: rest =>
    andThen (codePoint? [a, b, c, d]) (basicLines .none rest)
  | _, '\\' :: 'U' :: a :: b :: c :: d :: e :: f :: g :: h :: rest =>
    andThen (codePoint? [a, b, c, d, e, f, g, h]) (basicLines .none rest)
  | _, '\\' :: c :: rest => andThen (escaped? c) (basicLines .none rest)
  | _, '\n' :: rest => andThen (some '\n') (basicLines .none rest)
  | _, '\r' :: '\n' :: rest => andThen (some '\n') (basicLines .none rest)
  | _, c :: rest =>
    if isPlain c then andThen (some c) (basicLines .none rest) else .error .character

def literalLines : List Char → Except Fault (List Char × List Char)
  | '\'' :: '\'' :: '\'' :: '\'' :: '\'' :: rest => .ok (['\'', '\''], rest)
  | '\'' :: '\'' :: '\'' :: '\'' :: rest => .ok (['\''], rest)
  | '\'' :: '\'' :: '\'' :: rest => .ok ([], rest)
  | '\n' :: rest => andThen (some '\n') (literalLines rest)
  | '\r' :: '\n' :: rest => andThen (some '\n') (literalLines rest)
  | c :: rest => if isPlain c then andThen (some c) (literalLines rest) else .error .character
  | [] => .error (.unclosed "string")

def skipLineEnd : List Char → List Char
  | '\n' :: rest => rest
  | '\r' :: '\n' :: rest => rest
  | cs => cs

def string? : List Char → Option (Except Fault (String × List Char))
  | '"' :: '"' :: '"' :: rest => some (text (basicLines .none (skipLineEnd rest)))
  | '"' :: rest => some (text (basic rest))
  | '\'' :: '\'' :: '\'' :: rest => some (text (literalLines (skipLineEnd rest)))
  | '\'' :: rest => some (text (literal rest))
  | _ => none
where
  text (read : Except Fault (List Char × List Char)) : Except Fault (String × List Char) :=
    read.map fun r => (String.ofList r.1, r.2)

end BpfBoot.Toml
