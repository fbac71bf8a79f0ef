namespace BpfBoot.Text

def isDigit (c : Char) : Bool := '0' ≤ c && c ≤ '9'

def digitValue (c : Char) : Nat := c.toNat - '0'.toNat

def ofDigits (cs : List Char) : Nat := cs.foldl (fun n c => 10 * n + digitValue c) 0

def word32OfDigits? (cs : List Char) : Option UInt32 :=
  if cs.isEmpty || !cs.all isDigit then none
  else if ofDigits cs < UInt32.size then some (UInt32.ofNat (ofDigits cs)) else none

def word32? : List Char → Option UInt32
  | '+' :: rest => word32OfDigits? rest
  | cs => word32OfDigits? cs

def leadingWord32? (cs : List Char) : Option UInt32 := word32OfDigits? (cs.takeWhile isDigit)

def isExponent : List Char → Bool
  | [] => true
  | mark :: rest =>
    let digits := match rest with
      | '+' :: digits | '-' :: digits => digits
      | digits => digits
    (mark = 'e' || mark = 'E') && !digits.isEmpty && digits.all isDigit

/-- A number without a sign: infinity or none by name in letters of either case, or digits with a
point among or beside them and an exponent, both of which may be missing. -/
def isMagnitude (cs : List Char) : Bool :=
  if ["inf", "infinity", "nan"].contains (String.ofList (cs.map Char.toLower)) then true
  else
    let (whole, rest) := cs.span isDigit
    let (places, rest) := match rest with
      | '.' :: rest => rest.span isDigit
      | _ => ([], rest)
    !(whole.isEmpty && places.isEmpty) && isExponent rest

def isReal : List Char → Bool
  | '+' :: rest | '-' :: rest => isMagnitude rest
  | cs => isMagnitude cs

end BpfBoot.Text
