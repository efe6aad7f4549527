import SarifDigest.Proofs.Json.Validity
import SarifDigest.Proofs.Sarif.Decoding

/-!
# Validity of SARIF logs

The texts of the objects of a log are valid: each could be passed over as a value that nobody asked
for. So a document that decodes as a log is a value with nothing but space around it.
-/
namespace SarifDigest.Sarif

open Json (Passed Valid Filling quotedText_valid integerText_valid recordText_valid
  validSlots_of_fillings)

/-- The members of a message are valid. -/
theorem Message.fillings_valid : ∀ filling ∈ fillings, Valid filling.Form := by
  rw [fillings, List.forall_mem_cons, List.forall_mem_singleton]
  exact ⟨quotedText_valid.optional, quotedText_valid.optional⟩

/-- Messages are valid. -/
theorem Message.form_valid : Valid Message.Form :=
  recordText_valid (validSlots_of_fillings fillings_valid)

/-- The members of a rule are valid. -/
theorem ReportingDescriptor.fillings_valid : ∀ filling ∈ fillings, Valid filling.Form := by
  simp only [fillings, List.forall_mem_cons, List.not_mem_nil, false_implies, implies_true,
    and_true]
  exact ⟨quotedText_valid.optional, quotedText_valid.optional, Message.form_valid.optional,
    Message.form_valid.optional, Message.form_valid.optional⟩

/-- Rules are valid. -/
theorem ReportingDescriptor.form_valid : Valid ReportingDescriptor.Form :=
  recordText_valid (validSlots_of_fillings fillings_valid)

/-- The members of a tool component are valid. -/
theorem ToolComponent.fillings_valid : ∀ filling ∈ fillings, Valid filling.Form := by
  rw [fillings, List.forall_mem_cons, List.forall_mem_singleton]
  exact ⟨quotedText_valid.optional, ReportingDescriptor.form_valid.sequence.optional⟩

/-- Tool components are valid. -/
theorem ToolComponent.form_valid : Valid ToolComponent.Form :=
  recordText_valid (validSlots_of_fillings fillings_valid)

/-- The members of a tool are valid. -/
theorem Tool.fillings_valid : ∀ filling ∈ fillings, Valid filling.Form := by
  rw [fillings, List.forall_mem_singleton]
  exact ToolComponent.form_valid.optional

/-- Tools are valid. -/
theorem Tool.form_valid : Valid Tool.Form :=
  recordText_valid (validSlots_of_fillings fillings_valid)

/-- The members of the location of a file are valid. -/
theorem ArtifactLocation.fillings_valid : ∀ filling ∈ fillings, Valid filling.Form := by
  rw [fillings, List.forall_mem_cons, List.forall_mem_singleton]
  exact ⟨quotedText_valid.optional, integerText_valid.optional⟩

/-- Locations of files are valid. -/
theorem ArtifactLocation.form_valid : Valid ArtifactLocation.Form :=
  recordText_valid (validSlots_of_fillings fillings_valid)

/-- The members of an artifact are valid. -/
theorem Artifact.fillings_valid : ∀ filling ∈ fillings, Valid filling.Form := by
  rw [fillings, List.forall_mem_singleton]
  exact ArtifactLocation.form_valid.optional

/-- Artifacts are valid. -/
theorem Artifact.form_valid : Valid Artifact.Form :=
  recordText_valid (validSlots_of_fillings fillings_valid)

/-- The members of a region are valid. -/
theorem Region.fillings_valid : ∀ filling ∈ fillings, Valid filling.Form := by
  rw [fillings, List.forall_mem_cons, List.forall_mem_singleton]
  exact ⟨integerText_valid.optional, Message.form_valid.optional⟩

/-- Regions are valid. -/
theorem Region.form_valid : Valid Region.Form :=
  recordText_valid (validSlots_of_fillings fillings_valid)

/-- The members of a physical location are valid. -/
theorem PhysicalLocation.fillings_valid : ∀ filling ∈ fillings, Valid filling.Form := by
  rw [fillings, List.forall_mem_cons, List.forall_mem_singleton]
  exact ⟨ArtifactLocation.form_valid.optional, Region.form_valid.optional⟩

/-- Physical locations are valid. -/
theorem PhysicalLocation.form_valid : Valid PhysicalLocation.Form :=
  recordText_valid (validSlots_of_fillings fillings_valid)

/-- The members of a location are valid. -/
theorem Location.fillings_valid : ∀ filling ∈ fillings, Valid filling.Form := by
  rw [fillings, List.forall_mem_singleton]
  exact PhysicalLocation.form_valid.optional

/-- Locations are valid. -/
theorem Location.form_valid : Valid Location.Form :=
  recordText_valid (validSlots_of_fillings fillings_valid)

/-- Levels are valid, as values of any kind that are decoded. -/
theorem Level.form_valid (depth : Nat) : Valid (Level.Form depth) := by
  rintro level text ⟨value, written, _⟩
  exact Json.decoding_valid depth value text written

section Depths

variable (depth : Nat)

/-- The members of a result are valid. -/
theorem Result.fillings_valid : ∀ filling ∈ fillings depth, Valid filling.Form := by
  simp only [fillings, List.forall_mem_cons, List.not_mem_nil, false_implies, implies_true,
    and_true]
  exact ⟨quotedText_valid.optional, Message.form_valid.optional, Level.form_valid depth,
    quotedText_valid.optional, Location.form_valid.sequence.optional⟩

/-- Results are valid. -/
theorem Result.form_valid : Valid (Result.Form depth) :=
  recordText_valid (validSlots_of_fillings (fillings_valid depth))

/-- The members of a run are valid. -/
theorem Run.fillings_valid : ∀ filling ∈ fillings depth, Valid filling.Form := by
  simp only [fillings, List.forall_mem_cons, List.not_mem_nil, false_implies, implies_true,
    and_true]
  exact ⟨Tool.form_valid.optional, Artifact.form_valid.sequence.optional,
    (Result.form_valid depth).sequence.optional⟩

/-- Runs are valid. -/
theorem Run.form_valid : Valid (Run.Form depth) :=
  recordText_valid (validSlots_of_fillings (fillings_valid depth))

/-- The members of a log are valid. -/
theorem Log.fillings_valid : ∀ filling ∈ fillings depth, Valid filling.Form := by
  rw [fillings, List.forall_mem_singleton]
  exact (Run.form_valid depth).sequence.optional

/-- Logs are valid. -/
theorem Log.form_valid : Valid (Log.Form depth) :=
  recordText_valid (validSlots_of_fillings (fillings_valid depth))

end Depths

end SarifDigest.Sarif
