/-!
# UTF-8

Decoding of octets as UTF-8. A fault is reported with the octets it spans: a lead octet that
starts no character, a tail octet outside the range its lead allows, or an end in mid-character.
-/

namespace PointTable.Text

/-- Why octets are no UTF-8. -/
inductive Utf8Cause where
  | invalidStart
  | invalidTail
  | unexpectedEnd
  deriving DecidableEq, Repr

/-- A fault at `position`, spanning `length` octets of which `lead` is the first. -/
structure Utf8Fault where
  cause : Utf8Cause
  position : Nat
  length : Nat
  lead : UInt8
  deriving DecidableEq, Repr

def Utf8Cause.message : Utf8Cause → String
  | .invalidStart => "invalid start byte"
  | .invalidTail => "invalid continuation byte"
  | .unexpectedEnd => "unexpected end of data"

def Utf8Fault.message (fault : Utf8Fault) : String :=
  let place :=
    if fault.length = 1 then
      "byte 0x" ++ String.ofList ((Nat.toDigits 16 fault.lead.toNat).leftpad 2 '0')
        ++ " in position " ++ toString fault.position
    else
      "bytes in position " ++ toString fault.position ++ "-"
        ++ toString (fault.position + fault.length - 1)
  "'utf-8' codec can't decode " ++ place ++ ": " ++ fault.cause.message

/-- The tails a lead octet asks for: how many, and the range of the first. -/
def utf8Tails (lead : UInt8) : Option (Nat × UInt8 × UInt8) :=
  if lead < 0xC2 then none
  else if lead < 0xE0 then some (1, 0x80, 0xBF)
  else if lead = 0xE0 then some (2, 0xA0, 0xBF)
  else if lead = 0xED then some (2, 0x80, 0x9F)
  else if lead < 0xF0 then some (2, 0x80, 0xBF)
  else if lead = 0xF0 then some (3, 0x90, 0xBF)
  else if lead < 0xF4 then some (3, 0x80, 0xBF)
  else if lead = 0xF4 then some (3, 0x80, 0x8F)
  else none

/-- Read the owed tails: the code so far and the octets used, or the cause and how many octets
were good. -/
def utf8Take (low high : UInt8) (code : Nat) :
    Nat → List UInt8 → Except (Utf8Cause × Nat) Nat
  | 0, _ => .ok code
  | _ + 1, [] => .error (.unexpectedEnd, 0)
  | owed + 1, tail :: rest =>
    if low ≤ tail && tail ≤ high then
      match utf8Take 0x80 0xBF (code * 64 + (tail.toNat - 0x80)) owed rest with
      | .ok final => .ok final
      | .error (cause, good) => .error (cause, good + 1)
    else .error (.invalidTail, 0)

/-- The bits of a lead octet that belong to the code point, given the number of tails. -/
def utf8LeadBits (lead : UInt8) (tails : Nat) : Nat :=
  lead.toNat % (if tails = 1 then 32 else if tails = 2 then 16 else 8)

/-- Decode octets from a position on. The `skip` counts tails that a lead already used. -/
def utf8Chars (position skip : Nat) : List UInt8 → Except Utf8Fault (List Char)
  | [] => .ok []
  | octet :: rest =>
    if 0 < skip then utf8Chars (position + 1) (skip - 1) rest
    else if octet < 0x80 then
      (utf8Chars (position + 1) 0 rest).map (Char.ofNat octet.toNat :: ·)
    else
      match utf8Tails octet with
      | none => .error ⟨.invalidStart, position, 1, octet⟩
      | some (tails, low, high) =>
        match utf8Take low high (utf8LeadBits octet tails) tails rest with
        | .error (cause, good) => .error ⟨cause, position, good + 1, octet⟩
        | .ok code => (utf8Chars (position + 1) tails rest).map (Char.ofNat code :: ·)

/-- The text that octets spell in UTF-8. -/
def ofUtf8 (octets : List UInt8) : Except Utf8Fault String :=
  (utf8Chars 0 0 octets).map String.ofList

/-- The octets that begin a UTF-8 text with a byte order mark. -/
def byteOrderMark : List UInt8 := [0xEF, 0xBB, 0xBF]

/-! ## Piece by piece -/

/-- How many octets a piece has. -/
def pieceSize : Nat := 8192

/-- A fault at the end of octets is none yet if more octets may follow: a character is cut off
there. Two octets of a surrogate count as cut off too. -/
def Utf8Fault.isCut (fault : Utf8Fault) (octets : List UInt8) : Bool :=
  match fault.cause with
  | .unexpectedEnd => true
  | .invalidStart => false
  | .invalidTail =>
    match octets.drop fault.position with
    | [lead, tail] => lead = 0xED && 0xA0 ≤ tail && tail ≤ 0xBF
    | _ => false

/-- Decode octets that more may follow: the characters, and the octets that the end cuts off. -/
def utf8Piece (octets : List UInt8) : Except Utf8Fault (List Char × List UInt8) :=
  match utf8Chars 0 0 octets with
  | .ok chars => .ok (chars, [])
  | .error fault =>
    if fault.isCut octets then
      (utf8Chars 0 0 (octets.take fault.position)).map fun chars =>
        (chars, octets.drop fault.position)
    else .error fault

/-- Decode octets piece by piece. What a piece cuts off is kept for the next, and the place of a
fault is counted from there. -/
def utf8Pieces (kept octets : List UInt8) : Except Utf8Fault (List Char) :=
  if octets.isEmpty then utf8Chars 0 0 kept
  else do
    let (chars, kept) ← utf8Piece (kept ++ octets.take pieceSize)
    let others ← utf8Pieces kept (octets.drop pieceSize)
    return chars ++ others
termination_by octets.length
decreasing_by
  rename_i notEmpty
  have positive : 0 < octets.length := by
    cases octets with
    | nil => simp at notEmpty
    | cons => simp
  simp only [List.length_drop, pieceSize]
  omega

/-- The text that octets spell in UTF-8, without one leading byte order mark. Octets that only begin
such a mark spell nothing. The mark belongs to no piece but fills the first. -/
def ofMarkedUtf8 (octets : List UInt8) : Except Utf8Fault String :=
  if octets.isPrefixOf byteOrderMark then .ok ""
  else if byteOrderMark.isPrefixOf octets then
    (do
      let (chars, kept) ← utf8Piece ((octets.take pieceSize).drop 3)
      let others ← utf8Pieces kept (octets.drop pieceSize)
      return String.ofList (chars ++ others))
  else (utf8Pieces [] octets).map String.ofList

end PointTable.Text
