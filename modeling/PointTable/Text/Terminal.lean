/-!
# Terminal control sequences

What is printed for a reader holds no control sequences of a terminal: an escape character and an
opening bracket, then digits, semicolons and question marks, then a letter. All other characters
are printed as they are.
-/

namespace PointTable.Text

/-- A character between the opening of a control sequence and its letter. -/
def isControlParameter (c : Char) : Bool :=
  c = ';' || c = '?' || c.isDigit

/-- The length of the control sequence at the front, if there is one. -/
def controlLength? (chars : List Char) : Option Nat :=
  match chars with
  | '\x1b' :: '[' :: rest =>
    match rest.dropWhile isControlParameter with
    | c :: _ =>
      if c.isAlpha then some ((rest.takeWhile isControlParameter).length + 3) else none
    | [] => none
  | _ => none

/-- Drop the control sequences. The first `skip` characters belong to one that is found already. -/
def withoutControls : Nat → List Char → List Char
  | _, [] => []
  | skip + 1, _ :: rest => withoutControls skip rest
  | 0, c :: rest =>
    match controlLength? (c :: rest) with
    | some length => withoutControls (length - 1) rest
    | none => c :: withoutControls 0 rest

/-- A text without control sequences. -/
def printed (text : String) : String :=
  String.ofList (withoutControls 0 text.toList)

end PointTable.Text
