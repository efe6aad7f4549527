import SarifDigest.Violation.Basic

/-!
# Trails

What projecting a log leaves behind, in the order of the log: the violations found, and a note
for each run begun and each element that gives no violation. A trail may end early, at a
location that refers to an artifact its run does not have. What is put behind such a trail is
lost.
-/
namespace SarifDigest

/-- Why an element of a log gives no violation. -/
inductive Omission
  | noMessage
  | noPhysicalLocation
  | noRegion
  | noStartLine
  | startLineNotPositive (line : Int)
deriving DecidableEq

/-- The wording of each omission. -/
def Omission.message : Omission → String
  | noMessage => "skipping result without message"
  | noPhysicalLocation => "skipping location without physical location"
  | noRegion => "skipping location without region"
  | noStartLine => "skipping region without start line"
  | startLineNotPositive _ => "skipping non-positive start line"

/-- One thing that happens while a log is projected. -/
inductive Step
  | runBegun (run : Nat) (reporter : String) (results : Nat)
  | omitted (run : Nat) (rule : String) (omission : Omission)
  | found (violation : Violation)
deriving DecidableEq

/-- The violation of a step, if it is one. -/
def Step.violation? : Step → Option Violation
  | found violation => some violation
  | runBegun .. => none
  | omitted .. => none

/-- A reference to an artifact that a run does not have. -/
structure ArtifactFault where
  run : Nat
  index : Int
  declared : Nat
deriving DecidableEq

/-- The wording of a reference to a missing artifact. -/
def ArtifactFault.message (fault : ArtifactFault) : String :=
  "run " ++ toString fault.run ++ " references artifact index " ++ toString fault.index ++
    " but only " ++ toString fault.declared ++ " artifacts are declared"

/-- What happened, up to the end or to a fault. -/
structure Trail where
  steps : List Step
  fault : Option ArtifactFault := none
deriving DecidableEq

namespace Trail

/-- Nothing happened. -/
def empty : Trail := ⟨[], none⟩

/-- A single step. -/
def step (step : Step) : Trail := ⟨[step], none⟩

/-- A fault right at the start. -/
def fail (fault : ArtifactFault) : Trail := ⟨[], some fault⟩

/-- One trail behind another, unless the first ended early. -/
def andThen (first second : Trail) : Trail :=
  match first.fault with
  | some _ => first
  | none => ⟨first.steps ++ second.steps, second.fault⟩

/-- Trails one behind the other, up to the first that ended early. -/
def sequence (trails : List Trail) : Trail :=
  trails.foldr andThen empty

/-- The violations found, in the order in which they were. -/
def found (trail : Trail) : List Violation :=
  trail.steps.filterMap Step.violation?

/-- The violations of a trail that reached its end. -/
def violations (trail : Trail) : Except ArtifactFault ViolationSet :=
  match trail.fault with
  | some fault => .error fault
  | none => .ok (.ofList trail.found)

end Trail

end SarifDigest
