import PointTable.Xml.Charset

/-!
# Faults of documents

What can be wrong with a document, and where. While a document is read, a place is given by the
number of characters that are left there.
-/

namespace PointTable.Xml

/-- What is wrong at a place of a document. -/
inductive Cause where
  | syntaxError
  | noElement
  | invalidToken
  | unclosedToken
  | mismatchedTag
  | duplicateAttribute
  | junk
  | undefinedEntity
  /-- An entity is not defined in the document, but might be outside of it. -/
  | unresolvedEntity (name : String)
  | recursiveEntity
  | unbalancedEntity
  | binaryEntity
  | externalEntity
  | parameterReference
  | characterNumber
  | misplacedDeclaration
  | declaration
  | publicIdentifier
  | unclosedCdata
  | unknownEncoding
  | encoding
  | unboundPrefix
  | undeclaredPrefix
  | reservedXml
  | reservedXmlns
  | reservedNamespace
  deriving DecidableEq, Repr

def Cause.message : Cause → String
  | .syntaxError => "syntax error"
  | .noElement => "no element found"
  | .invalidToken => "not well-formed (invalid token)"
  | .unclosedToken => "unclosed token"
  | .mismatchedTag => "mismatched tag"
  | .duplicateAttribute => "duplicate attribute"
  | .junk => "junk after document element"
  | .undefinedEntity => "undefined entity"
  | .unresolvedEntity name => "undefined entity &" ++ name ++ ";"
  | .recursiveEntity => "recursive entity reference"
  | .unbalancedEntity => "asynchronous entity"
  | .binaryEntity => "reference to binary entity"
  | .externalEntity => "reference to external entity in attribute"
  | .parameterReference => "illegal parameter entity reference"
  | .characterNumber => "reference to invalid character number"
  | .misplacedDeclaration => "XML or text declaration not at start of entity"
  | .declaration => "XML declaration not well-formed"
  | .publicIdentifier => "illegal character(s) in public id"
  | .unclosedCdata => "unclosed CDATA section"
  | .unknownEncoding => "unknown encoding"
  | .encoding => "encoding specified in XML declaration is incorrect"
  | .unboundPrefix => "unbound prefix"
  | .undeclaredPrefix => "must not undeclare prefix"
  | .reservedXml =>
    "reserved prefix (xml) must not be undeclared or bound to another namespace name"
  | .reservedXmlns => "reserved prefix (xmlns) must not be declared or undeclared"
  | .reservedNamespace => "prefix must not be bound to one of the reserved namespace names"

/-- Why the encoding that a document names cannot be used, wherever the name stands. -/
inductive CharsetFault where
  | unknown (name : String)
  | notText (name : String)
  | wide
  | failing (name reason : String)
  | undecodable
  deriving DecidableEq, Repr

def CharsetFault.message : CharsetFault → String
  | .unknown name => "unknown encoding: " ++ name
  | .notText name =>
    "'" ++ name ++ "' is not a text encoding; use codecs.decode() to handle arbitrary codecs"
  | .wide => "multi-byte encodings are not supported"
  | .failing name reason =>
    "decoding with '" ++ name ++ "' codec failed (UnicodeError: " ++ reason ++ ")"
  | .undecodable =>
    "'ascii' codec can't decode byte 0x80 in position 82: ordinal not in range(128)"

/-- Why a text is no document that can be read. -/
inductive Fault where
  | malformed (cause : Cause) (line column : Nat)
  | charset (fault : CharsetFault)
  deriving DecidableEq, Repr

def Fault.message : Fault → String
  | .malformed cause line column =>
    cause.message ++ ": line " ++ toString line ++ ", column " ++ toString column
  | .charset fault => fault.message

/-- Why reading stops: the text ends inside a token, there is a fault where `remaining` characters
are left, or the encoding cannot be used. -/
inductive Stop where
  | ended
  | cause (cause : Cause) (remaining : Nat)
  | charset (fault : CharsetFault)
  deriving DecidableEq, Repr

/-- An unexpected character stops reading where it stands, and the end does where it is. -/
def unexpected {α : Type} (rest : List Char) : Except Stop α :=
  match rest with
  | [] => .error .ended
  | _ => .error (.cause .invalidToken rest.length)

/-- A token that the text ends in is unclosed where it starts. -/
def closing {α : Type} (start : List Char) (result : Except Stop α) : Except Stop α :=
  match result with
  | .error .ended => .error (.cause .unclosedToken start.length)
  | result => result

/-- Whatever stops reading does so at one place. -/
def placedAt {α : Type} (place : List Char) (result : Except Stop α) : Except Stop α :=
  match result with
  | .error .ended => .error (.cause .unclosedToken place.length)
  | .error (.cause cause _) => .error (.cause cause place.length)
  | result => result

end PointTable.Xml
