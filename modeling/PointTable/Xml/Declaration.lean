import PointTable.Xml.Markup

/-!
# The XML declaration

A document may start with a declaration of its version, its encoding and whether it stands alone, in
this order. The encoding decides how the octets behind the declaration become characters.
-/

namespace PointTable.Xml.Declaration

/-- A name with a value. `nameLeft` and `valueLeft` say how many characters of the declaration are
left where they start. -/
structure Setting where
  name : String
  nameLeft : Nat
  value : String
  valueLeft : Nat
  deriving DecidableEq, Repr

/-- A character of a value. -/
def isValueChar (c : Char) : Bool :=
  c.isAlphanum || c = '.' || c = '-' || c = '_'

/-- A character of a name, which ends at a blank or an equals sign. -/
def isSettingNameChar (c : Char) : Bool :=
  c.toNat < 0x80 && !isSpace c && c ≠ '='

/-- The value at the front, up to its closing quote. A fault is given by what is left there. -/
def quotedValue (chars : List Char) : Except Nat (String × Nat × List Char) :=
  match chars with
  | [] => .error 0
  | mark :: rest =>
    if mark = '\x22' || mark = '\x27' then
      let value := rest.takeWhile isValueChar
      match rest.drop value.length with
      | [] => .error 0
      | c :: behind =>
        if c = mark then .ok (String.ofList value, rest.length, behind)
        else .error (behind.length + 1)
    else .error chars.length

/-- The setting at the front, which a blank must precede; there is none at the end. -/
def setting (chars : List Char) : Except Nat (Option Setting × List Char) :=
  match chars with
  | [] => .ok (none, [])
  | c :: _ =>
    if !isSpace c then .error chars.length
    else
      let start := skipSpace chars
      if start.isEmpty then .ok (none, chars)
      else
        let name := start.takeWhile isSettingNameChar
        match skipSpace (start.drop name.length) with
        | '=' :: rest =>
          if name.isEmpty then .error (rest.length + 1)
          else do
            let (value, valueLeft, rest) ← quotedValue (skipSpace rest)
            return (some ⟨String.ofList name, start.length, value, valueLeft⟩, rest)
        | rest => .error rest.length

/-- What a declaration says: the encoding with what is left at its name, and whether the document
stands alone. -/
structure Content where
  encoding : Option (String × Nat)
  standsAlone : Bool
  deriving DecidableEq, Repr

/-- The end of a declaration behind the setting on standing alone, if there is one. -/
def alone (encoding : Option (String × Nat)) (found : Option Setting) (rest : List Char) :
    Except Nat Content :=
  match found with
  | none => .ok ⟨encoding, false⟩
  | some found =>
    if found.name ≠ "standalone" then .error found.nameLeft
    else if found.value ≠ "yes" && found.value ≠ "no" then .error found.valueLeft
    else if !(skipSpace rest).isEmpty then .error (skipSpace rest).length
    else .ok ⟨encoding, found.value = "yes"⟩

/-- What the inside of a declaration says. -/
def content (inside : List Char) : Except Nat Content := do
  let (version, rest) ← setting inside
  match version with
  | none => .error inside.length
  | some version =>
    if version.name ≠ "version" then .error version.nameLeft
    else
      let (second, rest) ← setting rest
      match second with
      | none => return ⟨none, false⟩
      | some second =>
        if second.name ≠ "encoding" then alone none (some second) rest
        else if !(second.value.toList.head?.any Char.isAlpha) then .error second.valueLeft
        else
          let (third, rest) ← setting rest
          alone (some (second.value, second.valueLeft)) third rest

/-- The charset of a name that stands where `remaining` characters are left. -/
def charsetOf (name : String) (remaining : Nat) : Except Stop Charset :=
  match Charset.ofName? name with
  | none => .error (.charset (.unknown name))
  | some .doubleOctet => .error (.cause .encoding remaining)
  | some .unreadable => .error (.cause .unknownEncoding remaining)
  | some .wide => .error (.charset .wide)
  | some .notText => .error (.charset (.notText name))
  | some (.failing reason) => .error (.charset (.failing name reason))
  | some .undecodable => .error (.charset .undecodable)
  | some charset => .ok charset

/-- The charset of a document, whether it stands alone, and the characters behind its declaration.
Without a declaration it is UTF-8. -/
def read (chars : List Char) : Except Stop (Charset × Bool × List Char) :=
  match chars with
  | '<' :: '?' :: rest =>
    if (rest.takeWhile isNameChar) ≠ "xml".toList then .ok (.utf8, false, chars)
    else do
      let (_, inside, behind) ← closing chars (instruction rest)
      let after (left : Nat) := left + 2 + behind.length
      match content inside with
      | .error left => throw (.cause .declaration (after left))
      | .ok found =>
        match found.encoding with
        | none => return (.utf8, found.standsAlone, behind)
        | some (name, left) =>
          return (← charsetOf name (after left), found.standsAlone, behind)
  | _ => .ok (.utf8, false, chars)

/-- The character that an octet stands for. An octet without one becomes a character that may not
stand in a document. -/
def charOfOctet (charset : Charset) (octet : UInt8) : Char :=
  let code := octet.toNat
  if code < 0x80 then
    if charset = .asciiWithoutTilde && code = 0x7E then '\uffff' else Char.ofNat code
  else
    match charset with
    | .latin1 => Char.ofNat code
    | .page rows =>
      match (rows.flatMap String.toList)[code - 0x80]? with
      | some c => if c = '\ufffd' then '\uffff' else c
      | none => '\uffff'
    | _ => '\uffff'

/-- The characters of a text whose UTF-8 octets are read in a charset. -/
def recode (charset : Charset) (chars : List Char) : List Char :=
  if charset = .utf8 then chars
  else (String.ofList chars).toUTF8.toList.map (charOfOctet charset)

end PointTable.Xml.Declaration
