import SarifDigest.Proofs.Json.Refusals
import SarifDigest.Sarif.Document

/-!
# Refusals of logs

A text that is no log is refused with a message of one line. What the format calls its objects and
their members is one line each, and nothing else that a refusal shows comes from the text as it is.
-/
namespace SarifDigest.Sarif

open Json (Reader)
open Json.Reader (NamesMembers names_record names_text names_integer names_optional names_sequence)
open Text (OneLine)

/-- The reader of texts that may be null names one line. -/
theorem names_optionalText : (Reader.optional .text).Names OneLine :=
  names_optional (names_text (by decide))

/-- The reader of integers that may be null names one line. -/
theorem names_optionalInteger : (Reader.optional (.integer "i64")).Names OneLine :=
  names_optional (names_integer (by decide))

/-- The reader of sequences that may be null names one line when that of their items does. -/
theorem names_optionalSequence {α : Type} {item : Reader α} (names : item.Names OneLine) :
    (Reader.optional (.sequence item)).Names OneLine :=
  names_optional (names_sequence (by decide) names)

/-- The reader of messages names one line. -/
theorem Message.names_reader : Message.reader.Names OneLine := by
  refine names_record (by decide) ?_
  refine NamesMembers.further ?_ (by decide) names_optionalText
  exact NamesMembers.none.further (by decide) names_optionalText

/-- The reader of rules names one line. -/
theorem ReportingDescriptor.names_reader : ReportingDescriptor.reader.Names OneLine := by
  refine names_record (by decide) ?_
  refine NamesMembers.further ?_ (by decide) names_optionalText
  refine NamesMembers.further ?_ (by decide) names_optionalText
  refine NamesMembers.further ?_ (by decide) (names_optional Message.names_reader)
  refine NamesMembers.further ?_ (by decide) (names_optional Message.names_reader)
  exact NamesMembers.none.further (by decide) (names_optional Message.names_reader)

/-- The reader of tool components names one line. -/
theorem ToolComponent.names_reader : ToolComponent.reader.Names OneLine := by
  refine names_record (by decide) ?_
  refine NamesMembers.further ?_ (by decide) names_optionalText
  exact NamesMembers.none.further (by decide)
    (names_optionalSequence ReportingDescriptor.names_reader)

/-- The reader of tools names one line. -/
theorem Tool.names_reader : Tool.reader.Names OneLine := by
  refine names_record (by decide) ?_
  exact NamesMembers.none.further (by decide) (names_optional ToolComponent.names_reader)

/-- The reader of the locations of files names one line. -/
theorem ArtifactLocation.names_reader : ArtifactLocation.reader.Names OneLine := by
  refine names_record (by decide) ?_
  refine NamesMembers.further ?_ (by decide) names_optionalText
  exact NamesMembers.none.further (by decide) names_optionalInteger

/-- The reader of artifacts names one line. -/
theorem Artifact.names_reader : Artifact.reader.Names OneLine := by
  refine names_record (by decide) ?_
  exact NamesMembers.none.further (by decide) (names_optional ArtifactLocation.names_reader)

/-- The reader of regions names one line. -/
theorem Region.names_reader : Region.reader.Names OneLine := by
  refine names_record (by decide) ?_
  refine NamesMembers.further ?_ (by decide) names_optionalInteger
  exact NamesMembers.none.further (by decide) (names_optional Message.names_reader)

/-- The reader of physical locations names one line. -/
theorem PhysicalLocation.names_reader : PhysicalLocation.reader.Names OneLine := by
  refine names_record (by decide) ?_
  refine NamesMembers.further ?_ (by decide) (names_optional ArtifactLocation.names_reader)
  exact NamesMembers.none.further (by decide) (names_optional Region.names_reader)

/-- The reader of locations names one line. -/
theorem Location.names_reader : Location.reader.Names OneLine := by
  refine names_record (by decide) ?_
  exact NamesMembers.none.further (by decide) (names_optional PhysicalLocation.names_reader)

/-- The reader of results names one line; that of levels names nothing. -/
theorem Result.names_reader (depth : Nat) : (Result.reader depth).Names OneLine := by
  refine names_record (by decide) ?_
  refine NamesMembers.further ?_ (by decide) names_optionalText
  refine NamesMembers.further ?_ (by decide) (names_optional Message.names_reader)
  refine NamesMembers.further ?_ (by decide) ((Reader.names_readerWithin _).map _)
  refine NamesMembers.further ?_ (by decide) names_optionalText
  exact NamesMembers.none.further (by decide) (names_optionalSequence Location.names_reader)

/-- The reader of runs names one line. -/
theorem Run.names_reader (depth : Nat) : (Run.reader depth).Names OneLine := by
  refine names_record (by decide) ?_
  refine NamesMembers.further ?_ (by decide) (names_optional Tool.names_reader)
  refine NamesMembers.further ?_ (by decide) (names_optionalSequence Artifact.names_reader)
  exact NamesMembers.none.further (by decide) (names_optionalSequence (Result.names_reader _))

/-- The reader of logs names one line. -/
theorem Log.names_reader (depth : Nat) : (Log.reader depth).Names OneLine := by
  refine names_record (by decide) ?_
  exact NamesMembers.none.further (by decide) (names_optionalSequence (Run.names_reader _))

/-- A text that is no log is refused with a message of one line. -/
theorem Log.oneLine_refusal {document : String} {refusal : Json.Refusal}
    (refused : Log.decode document = .error refusal) : OneLine refusal.message :=
  Json.Refusal.oneLine_message (Json.Reader.names_document (Log.names_reader _) refused)

end SarifDigest.Sarif
