import PointTable.Text.Printable
import PointTable.Text.Surrogate

/-!
# Quoted text

Names and cells are shown in messages between quotes. Single quotes are used unless the text holds
a single quote and no double quote; the mark in use, the backslash and the line controls are
escaped by a backslash, and characters that do not print are shown by their number.
-/

namespace PointTable.Text

/-- The mark a text is quoted with. -/
def quoteMark (chars : List Char) : Char :=
  if chars.contains '\x27' && !chars.contains '\x22' then '\x22' else '\x27'

/-- One character between quotes of the given mark. -/
def quoteChar (mark c : Char) : List Char :=
  if c = mark || c = '\\' then ['\\', c]
  else if c = '\t' then ['\\', 't']
  else if c = '\n' then ['\\', 'n']
  else if c = '\r' then ['\\', 'r']
  else if isPrintable c then [c]
  else numberEscape (codePoint c)

def quoted (text : String) : String :=
  let chars := text.toList
  let mark := quoteMark chars
  String.ofList (mark :: chars.flatMap (quoteChar mark) ++ [mark])

/-- One octet between quotes of the given mark: ASCII prints, all else is shown by number. -/
def quoteOctet (mark : Char) (octet : UInt8) : List Char :=
  if octet < 0x80 then quoteChar mark (Char.ofNat octet.toNat) else numberEscape octet.toNat

/-- A string of octets between quotes, marked by a leading `b`. -/
def quotedOctets (octets : List UInt8) : String :=
  let mark := quoteMark (octets.map fun octet => Char.ofNat octet.toNat)
  String.ofList ('b' :: mark :: octets.flatMap (quoteOctet mark) ++ [mark])

end PointTable.Text
