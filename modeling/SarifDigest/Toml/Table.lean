/-!
# Tables of TOML

Values, and tables that are put together from headers and from keys with dots. Both may add to
a table that is only there because a longer key or header went through it; but a table that
was begun by a header is not continued by keys from outside, one made by keys with dots is not
begun again by a header, and one that was written inline is complete.
-/
namespace SarifDigest.Toml

/-- How a table came about: by its own header or as the document, in passing to the table of a
longer header or of a longer key, or inline. -/
inductive TableKind
  | headed
  | passedByHeader
  | passedByKey
  | inline
deriving DecidableEq

/-- A value. Of scalars only texts are kept. An array that headers build holds tables only. -/
inductive Value
  | text (value : String)
  | scalar
  | array (headed : Bool) (items : List Value)
  | table (kind : TableKind) (members : List (String × Value))

/-- The members of a table. -/
abbrev Members := List (String × Value)

namespace Members

/-- Give a key a value, in place of the one it has. -/
def set (members : Members) (key : String) (value : Value) : Members :=
  members.filter (·.1 ≠ key) ++ [(key, value)]

/-- A change of the table at the end of some keys, which also gives a result. On the way
tables are made where there are none; the last table of an array stands for the array. Keys
with dots pass only through tables that were not begun by a header, and nothing passes through
a table written inline. -/
def changeAt {α : Type} (byKey : Bool)
    (change : TableKind → Members → Option (Members × α)) (kind : TableKind)
    (members : Members) : List String → Option (Members × α)
  | [] => change kind members
  | key :: keys =>
    match members.lookup key with
    | none => do
      let passed := if byKey then TableKind.passedByKey else .passedByHeader
      let (inner, result) ← changeAt byKey change passed [] keys
      some (members.set key (.table passed inner), result)
    | some (.table kind inner) =>
      if kind = .inline || (byKey && kind = .headed) then none
      else do
        let (inner, result) ← changeAt byKey change kind inner keys
        some (members.set key (.table kind inner), result)
    | some (.array true items) =>
      match items.getLast? with
      | some (.table kind inner) => do
        let (inner, result) ← changeAt byKey change kind inner keys
        some (members.set key (.array true (items.dropLast ++ [.table kind inner])), result)
      | _ => none
    | some _ => none

/-- Give the last of some keys a value, which it may not have yet. Keys with dots add only to
tables that such keys made. -/
def assign (members : Members) (path : List String) (key : String) (value : Value) :
    Option Members :=
  let add (kind : TableKind) (members : Members) : Option (Members × Unit) :=
    if decide (kind = .passedByKey) = path.isEmpty || (members.lookup key).isSome then none
    else some (members ++ [(key, value)], ())
  (changeAt true add .headed members path).map (·.1)

end Members

/-- The header of a table, or of one more table of an array. -/
structure Header where
  path : List String
  key : String
  ofArray : Bool

/-- A document as far as it is read: the tables that are complete, and the header and the
members of the table being read, which is the document itself before the first header. -/
structure Draft where
  complete : Members := []
  header : Option Header := none
  current : Members := []

namespace Draft

/-- Complete the table being read. -/
def close (draft : Draft) : Option Members :=
  match draft.header with
  | none => some draft.current
  | some header =>
    let table : Value := .table .headed draft.current
    let put (_ : TableKind) (members : Members) : Option (Members × Unit) :=
      if header.ofArray then
        match members.lookup header.key with
        | none => some (members.set header.key (.array true [table]), ())
        | some (.array true items) =>
          some (members.set header.key (.array true (items ++ [table])), ())
        | some _ => none
      else some (members.set header.key table, ())
    (Members.changeAt false put .headed draft.complete header.path).map (·.1)

/-- The members that the table of a header has before it begins: none, unless headers passed
through it. -/
def membersBefore (header : Header) (_ : TableKind) (members : Members) :
    Option (Members × Members) :=
  if header.ofArray then some (members, [])
  else
    match members.lookup header.key with
    | none => some (members, [])
    | some (.table .passedByHeader inner) => some (members, inner)
    | some _ => none

/-- Begin the table of a header. -/
def start (draft : Draft) (header : Header) : Option Draft := do
  let complete ← draft.close
  let (complete, current) ←
    Members.changeAt false (membersBefore header) .headed complete header.path
  some ⟨complete, some header, current⟩

end Draft

end SarifDigest.Toml
