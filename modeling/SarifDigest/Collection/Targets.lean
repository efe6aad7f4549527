import SarifDigest.Glob.Expansion
import SarifDigest.Violation.Summary

/-!
# Targets

The files that patterns lead to, in path order, each once. Patterns are relative to a root
folder. A text that is no pattern is a failure of its own and leads to no file.
-/
namespace SarifDigest

/-- The pattern that a text is below a root. -/
def patternBelow (root : Path) (pattern : String) : Except Glob.PatternFault Glob.Pattern :=
  Glob.Pattern.ofPath (root.join (.ofText pattern))

/-- The files that a pattern leads to. -/
def matchedFiles (tree : FileTree) (root : Path) (pattern : String) : List Path :=
  match patternBelow root pattern with
  | .ok pattern => (pattern.expand tree).filter tree.isFile
  | .error _ => []

/-- The failure of a text that is no pattern. -/
def patternFailure? (root : Path) (pattern : String) : Option InputFailure :=
  match patternBelow root pattern with
  | .ok _ => none
  | .error fault => some ⟨pattern, "invalid pattern: " ++ fault.message⟩

/-- The files that patterns lead to. Of several spellings of a path the first is kept. -/
def targets (tree : FileTree) (root : Path) (patterns : List String) : OrderedSet Path :=
  .ofList (patterns.flatMap (matchedFiles tree root))

/-- The failures of patterns, in the order of the patterns. -/
def patternFailures (root : Path) (patterns : List String) : List InputFailure :=
  patterns.filterMap (patternFailure? root)

end SarifDigest
