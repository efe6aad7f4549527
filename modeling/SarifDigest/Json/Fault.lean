import SarifDigest.Json.Number
import SarifDigest.Text.Quoted

/-!
# Faults of a document

Why a document is refused, and where. A fault keeps its cause, the text from its place on, and
how many bytes of that text count as read already; a position counts lines, and bytes since
the last line feed. `Cause.message` is the one place that words a cause.
-/
namespace SarifDigest.Json

/-- What stands where something else was expected. -/
inductive Found
  | null
  | boolean (value : Bool)
  | number (value : Number)
  | text (value : String)
  | sequence
  | map
deriving DecidableEq

/-- Why a document is refused. -/
inductive Cause
  | endInValue
  | endInSequence
  | endInObject
  | endInText
  | expectedValue
  | expectedWord
  | expectedColon
  | expectedCommaOrBracket
  | expectedCommaOrBrace
  | keyNotText
  | trailingComma
  | trailingCharacters
  | controlCharacter
  | badEscape
  | loneSurrogate
  | unfinishedSurrogate
  | badNumber
  | numberOutOfRange
  | tooDeep
  | wrongKind (found : Found) (wanted : String)
  | integerOutOfRange (value : Nat) (wanted : String)
  | repeatedMember (name : String)
deriving DecidableEq

/-- A value as a refusal names it. -/
def Found.description : Found → String
  | null => "null"
  | boolean value => "boolean `" ++ (if value then "true" else "false") ++ "`"
  | number (.natural value) => "integer `" ++ toString value ++ "`"
  | number (.negative size) => "integer `-" ++ toString size ++ "`"
  | number (.real negative size) => "floating point `" ++ realText negative size ++ "`"
  | text value => "string " ++ Text.quoted value
  | sequence => "sequence"
  | map => "map"

/-- The wording of each cause. -/
def Cause.message : Cause → String
  | endInValue => "EOF while parsing a value"
  | endInSequence => "EOF while parsing a list"
  | endInObject => "EOF while parsing an object"
  | endInText => "EOF while parsing a string"
  | expectedValue => "expected value"
  | expectedWord => "expected ident"
  | expectedColon => "expected `:`"
  | expectedCommaOrBracket => "expected `,` or `]`"
  | expectedCommaOrBrace => "expected `,` or `\x7d`"
  | keyNotText => "key must be a string"
  | trailingComma => "trailing comma"
  | trailingCharacters => "trailing characters"
  | controlCharacter => "control character (\\u0000-\\u001F) found while parsing a string"
  | badEscape => "invalid escape"
  | loneSurrogate => "lone leading surrogate in hex escape"
  | unfinishedSurrogate => "unexpected end of hex escape"
  | badNumber => "invalid number"
  | numberOutOfRange => "number out of range"
  | tooDeep => "recursion limit exceeded"
  | wrongKind found wanted => "invalid type: " ++ found.description ++ ", expected " ++ wanted
  | integerOutOfRange value wanted =>
    "invalid value: integer `" ++ toString value ++ "`, expected " ++ wanted
  | repeatedMember name => "duplicate field `" ++ name ++ "`"

/-- A refusal: its cause, the text from its place on, and the bytes of that text that count as
read. -/
structure Fault where
  cause : Cause
  rest : List Char
  ahead : Nat
deriving DecidableEq

/-- A refusal at the start of a text. -/
def refuseAt {α : Type} (cause : Cause) (rest : List Char) : Except Fault α :=
  .error ⟨cause, rest, 0⟩

/-- A refusal one byte into a text, or at its end when nothing is left. -/
def refuseAfter {α : Type} (cause : Cause) (rest : List Char) : Except Fault α :=
  .error ⟨cause, rest, 1⟩

/-- The bytes of a text. -/
def bytes (text : List Char) : List UInt8 :=
  text.flatMap String.utf8EncodeChar

/-- A line, counted from one, and the bytes of it that are read. -/
structure Position where
  line : Nat
  column : Nat
deriving DecidableEq

/-- The position behind some bytes. -/
def Position.after (read : List UInt8) : Position where
  line := read.count 10 + 1
  column := (read.reverse.takeWhile (· ≠ 10)).length

/-- Where a fault lies in the document that it was found in. -/
def Fault.position (fault : Fault) (document : List Char) : Position :=
  let before := document.take (document.length - fault.rest.length)
  .after (bytes before ++ (bytes fault.rest).take fault.ahead)

/-- A refusal as it is shown: the cause and its position. -/
structure Refusal where
  cause : Cause
  position : Position
deriving DecidableEq

/-- The wording of a refusal. -/
def Refusal.message (refusal : Refusal) : String :=
  refusal.cause.message ++ " at line " ++ toString refusal.position.line ++ " column " ++
    toString refusal.position.column

end SarifDigest.Json
