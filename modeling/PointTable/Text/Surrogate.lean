/-!
# Lone surrogates

Half of a surrogate pair is a code point but no character. A JSON text may name one that lacks its
other half, and it then goes through names and cells like a character. It stands in a text as the
character of the last private plane with the same sixteen low bits. It is shown by its number, and a
text that holds one has no UTF-8 form.
-/

namespace PointTable.Text

/-- The distance from a surrogate to the character it stands as. -/
def surrogateShift : Nat := 0x100000

/-- The character that a surrogate stands as. -/
def ofSurrogate (code : Nat) : Char :=
  Char.ofNat (surrogateShift + code)

/-- The character stands for a surrogate. -/
def isSurrogate (c : Char) : Bool :=
  surrogateShift + 0xD800 ≤ c.toNat && c.toNat ≤ surrogateShift + 0xDFFF

/-- The code point of a character, or the surrogate it stands for. -/
def codePoint (c : Char) : Nat :=
  if isSurrogate c then c.toNat - surrogateShift else c.toNat

/-- A number in lower-case hexadecimal, padded with zeros to a width. -/
def hexText (width number : Nat) : List Char :=
  (Nat.toDigits 16 number).leftpad width '0'

/-- A character by its number, with the shortest escape that can hold it. -/
def numberEscape (code : Nat) : List Char :=
  if code < 0x100 then '\\' :: 'x' :: hexText 2 code
  else if code < 0x10000 then '\\' :: 'u' :: hexText 4 code
  else '\\' :: 'U' :: hexText 8 code

/-- A text with its surrogates shown by number. -/
def escapeSurrogates (text : String) : String :=
  String.ofList (text.toList.flatMap fun c =>
    if isSurrogate c then numberEscape (codePoint c) else [c])

/-- Why a text has no UTF-8 form: `length` surrogates at a position, the first with code `code`. -/
structure EncodingFault where
  position : Nat
  length : Nat
  code : Nat
  deriving DecidableEq, Repr

def EncodingFault.message (fault : EncodingFault) : String :=
  let place :=
    if fault.length = 1 then
      "character '" ++ String.ofList (numberEscape fault.code) ++ "' in position "
        ++ toString fault.position
    else
      "characters in position " ++ toString fault.position ++ "-"
        ++ toString (fault.position + fault.length - 1)
  "'utf-8' codec can't encode " ++ place ++ ": surrogates not allowed"

/-- Why a text has no UTF-8 form, if it has none. -/
def encodingFault? (text : String) : Option EncodingFault :=
  let before := text.toList.takeWhile (!isSurrogate ·)
  match text.toList.drop before.length with
  | [] => none
  | c :: rest =>
    some ⟨before.length, (rest.takeWhile isSurrogate).length + 1, codePoint c⟩

end PointTable.Text
