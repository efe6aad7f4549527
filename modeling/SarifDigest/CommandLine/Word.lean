/-!
# Words of a command line

Two dashes alone end the options. A word that goes on behind them names an option or a flag and
may give it a value behind an equals sign. A word behind one dash is made of letters of flags.
All other words are plain, also the empty one and a dash alone.
-/
namespace SarifDigest

/-- A word by its form. -/
inductive Word
  | separator
  | named (name : String) (value : Option String)
  | letters (letters : List Char)
  | plain (text : String)
deriving DecidableEq

namespace Word

/-- A name, and the value behind the first equals sign if there is one. -/
def cut (text : List Char) : String × Option String :=
  let name := text.takeWhile (· ≠ '=')
  match text.dropWhile (· ≠ '=') with
  | [] => (.ofList name, none)
  | _ :: value => (.ofList name, some (.ofList value))

/-- The form of a word. -/
def ofText (text : String) : Word :=
  match text.toList with
  | ['-', '-'] => separator
  | '-' :: '-' :: rest => named (cut rest).1 (cut rest).2
  | '-' :: c :: rest => letters (c :: rest)
  | _ => plain text

end Word

end SarifDigest
