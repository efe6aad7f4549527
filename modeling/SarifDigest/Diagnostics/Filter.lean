import SarifDigest.Diagnostics.Record
import SarifDigest.Text.Blank
import SarifDigest.Text.Pieces

/-!
# Filters of records

A filter decides which records are shown. It is a list of directives, each a level for the
parts of the program whose name starts in a given way; the most specific directive that
concerns a record decides. Directives are written with commas between them, as `level`,
`target`, `target=level` or `target[span]=level`. A directive for a span concerns no record,
because no record here is made inside one.
-/
namespace SarifDigest

/-- A level for the records of some targets. -/
structure Directive where
  target : Option String
  fields : List String
  inSpan : Bool
  level : LogLevel
deriving DecidableEq

/-- The digits of a number with at most a plus sign before them. -/
def unsignedValue? (text : List Char) : Option Nat :=
  let digits := match text with
    | '+' :: rest => rest
    | text => text
  if digits.isEmpty || !digits.all Char.isDigit then none
  else some (Nat.ofDigitChars 10 digits 0)

/-- The level of a text: its word in any case, or its position. -/
def LogLevel.ofText? (text : List Char) : Option LogLevel :=
  match unsignedValue? text with
  | some rank => all[rank]?
  | none => all.find? fun level => level.word.toList = text.map Char.toLower

namespace Directive

/-- A directive for every record. -/
def general (level : LogLevel) : Directive := ⟨none, [], false, level⟩

/-- Whether a directive may start with a character. Letters beyond ASCII are not told from
other characters there. -/
def mayStart (c : Char) : Bool :=
  c.isAlphanum || c = '-' || c = ':' || c = '_' || 128 ≤ c.toNat

/-- The characters of a text from one position up to another. -/
def slice (text : List Char) (start stop : Nat) : List Char :=
  (text.take stop).drop start

/-- The level that is written from a position on, the most detailed if there is none. -/
def levelFrom (text : List Char) (start : Nat) : Option LogLevel :=
  match text.drop start with
  | [] => some .trace
  | word => LogLevel.ofText? word

/-- What may follow a span. -/
def readEnd (text shape : List Char) (position : Nat) : Option LogLevel :=
  match shape.drop position with
  | [] => some .trace
  | '=' :: _ => levelFrom text (position + 1)
  | _ => none

/-- A directive from behind the bracket that opens its span. -/
def readSpan (text shape : List Char) (start : Nat) (target : Option String) :
    Option Directive := do
  let stop := start + ((shape.drop start).takeWhile fun c => c ≠ ']' && c ≠ '\x7b').length
  match shape.drop stop with
  | ']' :: _ =>
    let level ← readEnd text shape (stop + 1)
    some ⟨target, [], true, level⟩
  | '\x7b' :: inner =>
    let close := stop + 1 + (inner.takeWhile (· ≠ '\x7d')).length
    match shape.drop close with
    | '\x7d' :: ']' :: _ =>
      let field := slice text (stop + 1) close
      if field.isEmpty then none
      else
        let (name, values) := Text.pieces '=' field
        let level ← readEnd text shape (close + 2)
        some ⟨target, [.ofList name], stop ≠ start || !values.isEmpty, level⟩
    | _ => none
  | _ => none

/-- Read a directive. Its shape is that of the text without the blanks around it, but its parts
are cut out of the text itself at the positions they have in the shape. -/
def ofText? (text : List Char) : Option Directive := do
  let shape := Text.trimChars text
  match shape with
  | [] => none
  | '[' :: _ => readSpan text shape 1 none
  | c :: _ =>
    if !mayStart c then none
    else
      let stop := (shape.takeWhile fun c => c ≠ '=' && c ≠ '[').length
      let target := String.ofList (slice text 0 stop)
      match shape.drop stop with
      | [] =>
        match LogLevel.ofText? text with
        | some level => some (general level)
        | none => some ⟨some (.ofList text), [], false, .trace⟩
      | '=' :: _ =>
        let level ← levelFrom text (stop + 1)
        some ⟨some target, [], false, level⟩
      | _ => readSpan text shape (stop + 1) (some target)

/-- Whether a directive is about a record. -/
def concerns (directive : Directive) (record : Record) : Bool :=
  !directive.inSpan &&
    directive.target.all (fun target => target.toList.isPrefixOf record.target.toList) &&
    directive.fields.all fun field =>
      field = "message" || record.fields.any fun (name, _) => name = field

/-- How specific a directive is: the length of its target, one more than of none, and the
number of its fields. -/
def specificity (directive : Directive) : Nat × Nat :=
  (match directive.target with
    | some target => target.utf8ByteSize + 1
    | none => 0,
   directive.fields.length)

attribute [local instance] lexOrd in
/-- By how specific directives are, and then by their fields. -/
def order : Directive → Directive → Ordering :=
  compareLex (compareOn specificity) (compareOn fields)

end Directive

/-- The directives of a filter, in the order in which they were given. -/
structure Filter where
  directives : List Directive

namespace Filter

/-- The filter that shows the records up to a level. -/
def upTo (level : LogLevel) : Filter := ⟨[.general level]⟩

/-- Read a filter. One without any directives shows errors. -/
def ofText? (text : String) : Option Filter := do
  let (first, rest) := Text.pieces ',' text.toList
  match ← ((first :: rest).filter (!·.isEmpty)).mapM Directive.ofText? with
  | [] => some (upTo .error)
  | directives => some ⟨directives⟩

/-- The directive that decides about a record: of the most specific ones the last. -/
def deciding? (filter : Filter) (record : Record) : Option Directive :=
  (filter.directives.filter (·.concerns record)).foldl
    (fun best next =>
      match best with
      | none => some next
      | some best => if (best.order next).isLE then some next else some best)
    none

/-- Whether a record is shown. -/
def shows (filter : Filter) (record : Record) : Bool :=
  (filter.deciding? record).any fun directive => record.level.rank ≤ directive.level.rank

end Filter

end SarifDigest
