import SarifDigest.Text.Blank
import SarifDigest.Violation.Summary

/-!
# Words of settings

The words by which an output mode and a threshold are chosen. Blanks around a word and the
case of its letters do not matter. A word that is not known is refused as it was given.
-/
namespace SarifDigest

/-- The form of the output. -/
inductive OutputMode
  | human
  | json
deriving DecidableEq

/-- A setting given by a word that it does not know. -/
structure UnknownWord where
  setting : String
  word : String
deriving DecidableEq

/-- The wording of an unknown word. -/
def UnknownWord.message (unknown : UnknownWord) : String :=
  "invalid value for `" ++ unknown.setting ++ "`: " ++ unknown.word

/-- A word without the blanks around it, in lower case. -/
def plainWord (text : String) : String :=
  Text.toAsciiLower (Text.trim text)

/-- The word of a mode. -/
def OutputMode.word : OutputMode → String
  | human => "human"
  | json => "json"

/-- The mode of a word. -/
def OutputMode.ofText (text : String) : Except UnknownWord OutputMode :=
  let word := plainWord text
  if word = "human" then .ok .human
  else if word = "json" then .ok .json
  else .error ⟨"output", text⟩

/-- The word of a threshold. -/
def Threshold.word : Threshold → String
  | error => "error"
  | warn => "warn"
  | info => "info"
  | never => "never"

/-- The threshold of a word; two of them have a second word. -/
def Threshold.ofText (text : String) : Except UnknownWord Threshold :=
  let word := plainWord text
  if word = "error" then .ok .error
  else if word = "warn" ∨ word = "warning" then .ok .warn
  else if word = "info" then .ok .info
  else if word = "never" ∨ word = "none" then .ok .never
  else .error ⟨"fail_on", text⟩

end SarifDigest
