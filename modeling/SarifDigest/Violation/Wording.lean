import SarifDigest.Sarif.Log
import SarifDigest.Text.Blank
import SarifDigest.Text.Search

/-!
# Messages of violations

How the message of a violation is put together. Parts are separated by a blank line. A located
violation shows what was found, what the region adds and where to find help; one without a
place shows the description of its rule and what was found, unless the description says it.
-/
namespace SarifDigest

/-- A text that is there and not empty. -/
def nonEmpty (text : Option String) : Option String :=
  text.filter (· ≠ "")

/-- The text of a message, its Markdown unless that is empty. The plain text may be empty. -/
def Sarif.Message.shown (message : Sarif.Message) : Option String :=
  match nonEmpty message.markdown with
  | some markdown => some markdown
  | none => message.text

/-- The text of a message that may be missing. -/
def shownText (message : Option Sarif.Message) : Option String :=
  message.bind Sarif.Message.shown

/-- What stands between two parts of a message. -/
def partSeparator : String := "\n\n"

/-- What introduces the help of a rule. -/
def helpLabel : String := "For additional help see: "

/-- A part of a message with the separator before it, nothing for a part that is missing. -/
def furtherPart (part : Option String) : String :=
  match part with
  | some part => partSeparator ++ part
  | none => ""

/-- The message of a violation at a place. -/
def locatedMessage (finding : String) (region help : Option String) : String :=
  Text.trim (finding ++ furtherPart region ++ furtherPart (help.map (helpLabel ++ ·)))

/-- The message of a violation without a place. The separator is written before the finding
even when there is no description. -/
def filelessMessage (description : Option String) (finding : String) : String :=
  let description := description.getD ""
  if Text.contains description finding then description
  else description ++ partSeparator ++ finding

end SarifDigest
