import SarifDigest.Yaml.Token

/-!
# Nodes of YAML

The single document of a stream as a tree of nodes, put together from tokens. A node that is
left out is an empty plain scalar. An anchor takes a slot and an alias refers to the slot that
the latest anchor of its name has; the slot is numbered by the names known before, so a name
that is used again makes the next new name share its slot, and the node of a slot is the last
that took it.
-/
namespace SarifDigest.Yaml

open Text (Turn)

/-- A node of a document. -/
inductive Node
  | scalar (tag : Option String) (plain : Bool) (text : String)
  | sequence (items : List Node)
  | mapping (members : List (Node × Node))
  | alias (slot : Nat)

/-- The node that stands where nothing is written. -/
def Node.empty (tag : Option String) : Node := .scalar tag true ""

/-- What the nodes of a document share: the bases of tag handles, the slots of anchor names,
the number of the node that took each slot, the number of nodes so far, and the nodes that have
an anchor by their number. -/
structure Shared where
  handles : List (String × String)
  names : List (String × Nat) := []
  slots : List (Nat × Nat) := []
  count : Nat := 0
  made : List (Nat × Node) := []

namespace Shared

/-- Begin a node, which takes a slot if it has an anchor. The result is its number. -/
def begin (shared : Shared) (anchor : Option String) : Nat × Shared :=
  let number := shared.count
  match anchor with
  | none => (number, { shared with count := number + 1 })
  | some name =>
    let slot := shared.names.length
    (number, { shared with
      names := (name, slot) :: shared.names.filter (·.1 ≠ name)
      slots := (slot, number) :: shared.slots
      count := number + 1 })

/-- Keep a node that has an anchor. -/
def keep (shared : Shared) (anchor : Option String) (number : Nat) (node : Node) : Shared :=
  if anchor.isSome then { shared with made := (number, node) :: shared.made } else shared

/-- The node that a slot stands for. -/
def nodeOf? (shared : Shared) (slot : Nat) : Option Node :=
  (shared.slots.lookup slot).bind fun number => shared.made.lookup number

/-- The name of a tag, if its handle is known. -/
def tagName? (shared : Shared) (handle suffix : String) : Option String :=
  if handle.isEmpty then some suffix
  else (shared.handles.lookup handle).map (· ++ suffix)

end Shared

/-- The tokens that are left, with what the nodes share. -/
structure Feed where
  tokens : List Token
  shared : Shared

namespace Feed

/-- The tokens that are left. -/
def size (feed : Feed) : Nat := feed.tokens.length

/-- The next token. -/
def next? (feed : Feed) : Option Token := feed.tokens.head?

/-- Whether the next token is one of the given ones. -/
def sees (feed : Feed) (tokens : List Token) : Bool :=
  feed.next?.any tokens.contains

/-- The feed behind its next token. -/
def skip (feed : Feed) : Feed := { feed with tokens := feed.tokens.drop 1 }

/-- Add a node without an anchor where nothing is written. -/
def addEmpty (feed : Feed) : Node × Feed :=
  (.empty none, { feed with shared := (feed.shared.begin none).2 })

end Feed

/-- Reading a node from the front of a feed. -/
abbrev NodeReader := Feed → Option (Node × Feed)

/-- A node, unless one of the given tokens comes next. -/
def nodeUnless (node : NodeReader) (tokens : List Token) : NodeReader := fun feed =>
  if feed.sees tokens then some feed.addEmpty else node feed

/-- A node behind the sign of a value, or nothing written. -/
def valueOr (node : NodeReader) (ends : List Token) : NodeReader := fun feed =>
  if feed.sees [.value] then nodeUnless node ends feed.skip else some feed.addEmpty

/-- The next entry of a block sequence, or its end. -/
def blockEntryStep (node : NodeReader) (items : List Node) (feed : Feed) :
    Option (Turn (List Node) Node × Feed) :=
  if feed.sees [.blockEntry] then
    (nodeUnless node [.blockEntry, .blockEnd] feed.skip).map fun (item, feed) =>
      (.again (items ++ [item]), feed)
  else if feed.sees [.blockEnd] then some (.done (.sequence items), feed.skip)
  else none

/-- The next entry of a sequence at the indentation of the mapping that it is in, or its end. -/
def indentlessEntryStep (node : NodeReader) (items : List Node) (feed : Feed) :
    Option (Turn (List Node) Node × Feed) :=
  if feed.sees [.blockEntry] then
    (nodeUnless node [.blockEntry, .key, .value, .blockEnd] feed.skip).map fun (item, feed) =>
      (.again (items ++ [item]), feed)
  else some (.done (.sequence items), feed)

/-- The next member of a block mapping, or its end. -/
def blockMemberStep (node : NodeReader) (members : List (Node × Node)) (feed : Feed) :
    Option (Turn (List (Node × Node)) Node × Feed) := do
  let ends : List Token := [.key, .value, .blockEnd]
  if feed.sees [.key] then do
    let (key, feed) ← nodeUnless node ends feed.skip
    let (value, feed) ← valueOr node ends feed
    some (.again (members ++ [(key, value)]), feed)
  else if feed.sees [.blockEnd] then some (.done (.mapping members), feed.skip)
  else none

/-- The feed behind the sign between entries, which the first entry does not have. -/
def behindEntrySign? (first : Bool) (feed : Feed) : Option Feed :=
  if first then some feed
  else if feed.sees [.flowEntry] then some feed.skip
  else none

/-- A mapping of a single member as an entry of a flow sequence. Where its key is left out the
token in the place of the key is passed over. -/
def pairNode (node : NodeReader) : NodeReader := fun feed => do
  let feed := { feed with shared := (feed.shared.begin none).2 }
  let (key, feed) ←
    if feed.sees [.value, .flowEntry, .flowSequenceEnd] then
      some (feed.addEmpty.1, feed.addEmpty.2.skip)
    else node feed
  let (value, feed) ← valueOr node [.flowEntry, .flowSequenceEnd] feed
  some (.mapping [(key, value)], feed)

/-- The next entry of a flow sequence, or its end. -/
def flowEntryStep (node : NodeReader) (items : List Node) (feed : Feed) :
    Option (Turn (List Node) Node × Feed) := do
  if feed.sees [.flowSequenceEnd] then some (.done (.sequence items), feed.skip)
  else do
    let feed ← behindEntrySign? items.isEmpty feed
    if feed.sees [.key] then do
      let (item, feed) ← pairNode node feed.skip
      some (.again (items ++ [item]), feed)
    else if feed.sees [.flowSequenceEnd] then some (.done (.sequence items), feed.skip)
    else do
      let (item, feed) ← node feed
      some (.again (items ++ [item]), feed)

/-- The next member of a flow mapping, or its end. A member without the sign of a key has no
value. -/
def flowMemberStep (node : NodeReader) (members : List (Node × Node)) (feed : Feed) :
    Option (Turn (List (Node × Node)) Node × Feed) := do
  if feed.sees [.flowMappingEnd] then some (.done (.mapping members), feed.skip)
  else do
    let feed ← behindEntrySign? members.isEmpty feed
    if feed.sees [.key] then do
      let (key, feed) ← nodeUnless node [.value, .flowEntry, .flowMappingEnd] feed.skip
      let (value, feed) ← valueOr node [.flowEntry, .flowMappingEnd] feed
      some (.again (members ++ [(key, value)]), feed)
    else if feed.sees [.flowMappingEnd] then some (.done (.mapping members), feed.skip)
    else do
      let (key, feed) ← node feed
      let (value, feed) := feed.addEmpty
      some (.again (members ++ [(key, value)]), feed)

/-- The anchor and the tag in front of a node, in either order. -/
structure Properties where
  anchor : Option String := none
  tag : Option (String × String) := none

/-- Read the anchor and the tag of a node. -/
def properties (feed : Feed) : Properties × Feed :=
  match feed.tokens with
  | .anchor name :: .tag handle suffix :: rest =>
    (⟨some name, some (handle, suffix)⟩, { feed with tokens := rest })
  | .tag handle suffix :: .anchor name :: rest =>
    (⟨some name, some (handle, suffix)⟩, { feed with tokens := rest })
  | .anchor name :: rest => (⟨some name, none⟩, { feed with tokens := rest })
  | .tag handle suffix :: rest => (⟨none, some (handle, suffix)⟩, { feed with tokens := rest })
  | _ => ({}, feed)

/-- Where a node stands: in a block, in a block where a sequence needs no indentation, or in a
flow. -/
inductive Place
  | block
  | member
  | flow
deriving DecidableEq

/-- The mark of tags alone, which is no tag of a scalar that is written. -/
def bareTag : String := "!"

/-- The body of a node behind its anchor and its tag, if there is one. The readers are for the
nodes inside it. -/
def nodeBody (inner : Place → NodeReader) (place : Place) (tag : Option String) (feed : Feed) :
    Option (Option (Node × Feed)) :=
  let collect {α : Type} (step : List α → Feed → Option (Turn (List α) Node × Feed))
      (feed : Feed) :=
    (Text.loopOn Feed.size step [] feed).map some
  match feed.next? with
  | some (.scalar plain text) =>
    some (some (.scalar (tag.filter (· ≠ bareTag)) plain text, feed.skip))
  | some .flowSequenceStart => collect (flowEntryStep (inner .flow)) feed.skip
  | some .flowMappingStart => collect (flowMemberStep (inner .flow)) feed.skip
  | some .blockEntry =>
    if place = .member then collect (indentlessEntryStep (inner .block)) feed else some none
  | some .blockSequenceStart =>
    if place = .flow then some none else collect (blockEntryStep (inner .block)) feed.skip
  | some .blockMappingStart =>
    if place = .flow then some none else collect (blockMemberStep (inner .member)) feed.skip
  | _ => some none

/-- A node that opens at most the given number of collections inside each other. -/
def node : Nat → Place → NodeReader
  | 0, _, _ => none
  | depth + 1, place, feed =>
    match feed.tokens with
    | .alias name :: rest =>
      (feed.shared.names.lookup name).map fun slot =>
        (.alias slot, { tokens := rest, shared := (feed.shared.begin none).2 })
    | _ => do
      let (found, feed) := properties feed
      let tag ← match found.tag with
        | some (handle, suffix) => (feed.shared.tagName? handle suffix).map some
        | none => some none
      let (number, shared) := feed.shared.begin found.anchor
      match ← nodeBody (node depth) place tag { feed with shared } with
      | some (node, feed) =>
        some (node, { feed with shared := feed.shared.keep found.anchor number node })
      | none =>
        if found.anchor.isNone && found.tag.isNone then none
        else
          let node := Node.empty tag
          some (node, { feed with shared := shared.keep found.anchor number node })

/-- The tag handles that are known without a directive. -/
def standardHandles : List (String × String) :=
  [("!", "!"), ("!!", "tag:yaml.org,2002:")]

/-- Read the directives in front of a document. There may be one of the version, which has to
be a known one, and one for each tag handle. The result is whether there was a version, and the
handles. -/
def directives (version : Bool) (handles : List (String × String)) :
    List Token → Option (List (String × String) × List Token)
  | .version major minor :: rest =>
    if version || major ≠ 1 || (minor ≠ 1 && minor ≠ 2) then none
    else directives true handles rest
  | .tagHandle handle base :: rest =>
    if (handles.lookup handle).isSome then none
    else directives version (handles ++ [(handle, base)]) rest
  | tokens => some (handles, tokens)

/-- A document: its node, and what the nodes in it share. There is no node in a stream without
tokens. -/
structure Document where
  root : Option Node
  shared : Shared

/-- Put a document together, behind which no other may follow. -/
def Document.ofTokens? (tokens : List Token) : Option Document := do
  let (handles, rest) ← directives false [] tokens
  let explicit := rest.head? = some .documentStart
  if rest.length < tokens.length && !explicit then none
  else
    let feed : Feed := {
      tokens := if explicit then rest.drop 1 else rest
      shared := { handles := handles ++ standardHandles } }
    if !explicit && rest.isEmpty then some ⟨none, feed.shared⟩
    else do
      let (root, feed) ←
        if explicit && (feed.tokens.isEmpty || feed.sees [.documentStart, .documentEnd] ||
            feed.next?.any fun
              | .version .. => true
              | .tagHandle .. => true
              | _ => false) then
          some feed.addEmpty
        else node (feed.size + 1) .block feed
      if feed.tokens.all (· = .documentEnd) then some ⟨some root, feed.shared⟩ else none

/-- Read a stream of at most one document. -/
def Document.read? (text : String) : Option Document :=
  (tokens? text).bind Document.ofTokens?

end SarifDigest.Yaml
