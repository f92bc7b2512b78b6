import PointTable.Xml.Content
import PointTable.Xml.Declaration
import PointTable.Xml.Doctype.Reader

/-!
# Reading XML

A well-formed document with namespaces becomes a tree of elements. Comments and processing
instructions are read over, and what the document type declares is applied. A fault names its cause
and the place where it was found.
-/

namespace PointTable.Xml

/-- What stands before the root: blanks, comments, instructions and one document type, which `typed`
says was there. The result starts with the root's tag. -/
def prolog : Nat → Bool → Doctype → List Char → Except Stop (Doctype × List Char)
  | 0, _, _, chars => .error (.cause .noElement chars.length)
  | fuel + 1, typed, doctype, chars => do
    let (token, start, rest) ← Token.next chars
    match token with
    | .start => return (doctype, start)
    | .comment => prolog fuel typed doctype rest
    | .instruction => prolog fuel typed doctype rest
    | .opening "DOCTYPE" =>
      if typed then token.refuse start
      else
        let (doctype, rest) ← doctype.read rest
        prolog fuel true doctype rest
    | _ => token.refuse start

/-- What stands behind the root: blanks, comments and instructions. -/
def epilog : Nat → List Char → Except Stop Unit
  | 0, _ => .ok ()
  | fuel + 1, chars =>
    if (skipSpace chars).isEmpty then .ok ()
    else do
      let (token, start, rest) ← Token.next chars
      match token with
      | .comment => epilog fuel rest
      | .instruction => epilog fuel rest
      | _ => throw (.cause .junk start.length)

/-- The root of a document behind its declaration. Every step takes at least one character. -/
def document (standsAlone : Bool) (chars : List Char) : Except Stop Element := do
  let (doctype, start) ← prolog (chars.length + 1) false (Doctype.initial standsAlone) chars
  let (tag, rest) ←
    closing start (startTag doctype [] (start.length + 1) Scope.outermost start)
  let root := Frame.ofTag tag
  if tag.empty then
    epilog (rest.length + 1) rest
    return root.close
  else
    let (root, rest) ← content (Setting.ofDoctype doctype) (rest.length + 1) root [] rest
    epilog (rest.length + 1) rest
    return root

/-- The fault at the place of a text where some characters are left. -/
def locate (cause : Cause) (chars : List Char) (remaining : Nat) : Fault :=
  let before := chars.take (chars.length - remaining)
  .malformed cause ((before.filter (· = '\n')).length + 1)
    (before.reverse.takeWhile (· ≠ '\n')).length

/-- The fault that stops reading a text. -/
def Stop.fault (chars : List Char) : Stop → Fault
  | .ended => locate .unclosedToken chars chars.length
  | .cause found remaining => locate found chars remaining
  | .charset found => .charset found

/-- Drop a byte order mark at the start. -/
def dropMark : List Char → List Char
  | '\ufeff' :: rest => rest
  | chars => chars

/-- Read a document. Columns are counted in the characters of its charset. -/
def parse (text : String) : Except Fault Element :=
  let chars := normalizeLines text.toList
  match Declaration.read (dropMark chars) with
  | .error stop => .error (stop.fault chars)
  | .ok (charset, standsAlone, rest) =>
    (document standsAlone (Declaration.recode charset rest)).mapError
      (Stop.fault (Declaration.recode charset chars))

end PointTable.Xml
