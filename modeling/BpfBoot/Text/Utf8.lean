namespace BpfBoot.Text

abbrev Octets := List UInt8

def encode (s : String) : Octets := s.toList.flatMap String.utf8EncodeChar

/-- Where decoding stands between two octets: between characters, or inside one, with `owed`
octets to come of which the next lies in `low ..= high`, and `code` read so far. -/
inductive DecodeState where
  | between
  | inside (owed : Nat) (low high : UInt8) (code : Nat)
  deriving DecidableEq, Repr

abbrev Piece := Option Char

/-- The first octet of a character. The bounds on the second octet leave out overlong forms,
surrogates and numbers beyond U+10FFFF. -/
def decodeFirst (b : UInt8) : DecodeState × List Piece :=
  if b < 0x80 then (.between, [some (Char.ofNat b.toNat)])
  else if b < 0xC2 then (.between, [none])
  else if b < 0xE0 then (.inside 1 0x80 0xBF (b.toNat - 0xC0), [])
  else if b = 0xE0 then (.inside 2 0xA0 0xBF 0, [])
  else if b = 0xED then (.inside 2 0x80 0x9F 0xD, [])
  else if b < 0xF0 then (.inside 2 0x80 0xBF (b.toNat - 0xE0), [])
  else if b = 0xF0 then (.inside 3 0x90 0xBF 0, [])
  else if b < 0xF4 then (.inside 3 0x80 0xBF (b.toNat - 0xF0), [])
  else if b = 0xF4 then (.inside 3 0x80 0x8F 4, [])
  else (.between, [none])

/-- One octet. A maximal run of octets that could begin a character but does not finish one is one
ill-formed piece; the octet that cannot go on with it is then read as a first octet. -/
def decodeStep : DecodeState → UInt8 → DecodeState × List Piece
  | .between, b => decodeFirst b
  | .inside owed low high code, b =>
    if low ≤ b && b ≤ high then
      let code := 64 * code + (b.toNat - 0x80)
      if owed ≤ 1 then (.between, [some (Char.ofNat code)])
      else (.inside (owed - 1) 0x80 0xBF code, [])
    else
      let (state, pieces) := decodeFirst b
      (state, none :: pieces)

def decodeFrom : DecodeState → Octets → List Piece
  | .between, [] => []
  | .inside .., [] => [none]
  | state, b :: rest =>
    let (next, pieces) := decodeStep state b
    pieces ++ decodeFrom next rest

def pieces (bytes : Octets) : List Piece := decodeFrom .between bytes

def decodeLossy (bytes : Octets) : String :=
  String.ofList ((pieces bytes).map (·.getD '\uFFFD'))

def decode? (bytes : Octets) : Option String :=
  if (pieces bytes).all (·.isSome) then some (String.ofList ((pieces bytes).filterMap id)) else none

end BpfBoot.Text
