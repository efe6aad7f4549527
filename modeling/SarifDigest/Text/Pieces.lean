/-!
# Pieces of text

A text cut at each of its separators.
-/
namespace SarifDigest.Text

/-- The pieces of a text between separators: the first, of which there is always one, and those
behind a separator. -/
def pieces (separator : Char) : List Char → List Char × List (List Char)
  | [] => ([], [])
  | c :: rest =>
    let (first, others) := pieces separator rest
    if c = separator then ([], first :: others) else (c :: first, others)

end SarifDigest.Text
