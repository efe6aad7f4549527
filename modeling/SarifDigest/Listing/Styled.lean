/-!
# Styled text

A line as pieces of text, each with a style. A piece is shown as it is or between the
sequences that a terminal takes as switching its style on and off; bold is switched on first
and off last.
-/
namespace SarifDigest

/-- The colours of text. -/
inductive Colour
  | red
  | yellow
  | blue
  | cyan
deriving DecidableEq

/-- The number by which a terminal knows a colour. -/
def Colour.code : Colour → List Char
  | red => ['3', '1']
  | yellow => ['3', '3']
  | blue => ['3', '4']
  | cyan => ['3', '6']

/-- The sequence that sets an attribute of a terminal. -/
def attributeSequence (code : List Char) : List Char :=
  '\x1b' :: '[' :: code ++ ['m']

/-- A piece of text of one style. -/
structure Piece where
  text : String
  colour : Option Colour := none
  bold : Bool := false
deriving DecidableEq

namespace Piece

/-- Text of no particular style. -/
def plain (text : String) : Piece := ⟨text, none, false⟩

/-- The characters of a piece in its colour. -/
def coloured (piece : Piece) : List Char :=
  match piece.colour with
  | some colour =>
    attributeSequence colour.code ++ piece.text.toList ++ attributeSequence ['3', '9']
  | none => piece.text.toList

/-- The characters of a piece in its style. -/
def styled (piece : Piece) : List Char :=
  if piece.bold then attributeSequence ['1'] ++ piece.coloured ++ attributeSequence ['0']
  else piece.coloured

end Piece

/-- A line of text in pieces. -/
abbrev StyledLine := List Piece

namespace StyledLine

/-- The characters of a line, in style or without. -/
def chars (line : StyledLine) (colours : Bool) : List Char :=
  line.flatMap fun piece => if colours then piece.styled else piece.text.toList

/-- A line as it is shown. -/
def render (line : StyledLine) (colours : Bool) : String :=
  String.ofList (line.chars colours)

end StyledLine

end SarifDigest
