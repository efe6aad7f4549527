import Mathlib.Algebra.Group.Int.Defs
import SarifDigest.Proofs.Projection.Elements
import SarifDigest.Proofs.Sarif.Decoding

/-!
# Lines of a decoded log

An integer of a log is written with 64 bits and a sign. What is written of a record is written
of the values of its members, so a line that a location of a decoded log points at is within
these bounds, however deep in the log the location is.
-/
namespace SarifDigest

namespace Json

variable {α σ : Type} {slots : List (Slot σ)} {record : σ} {text : List Char}

/-- An integer of 64 bits with a sign is within their range. -/
theorem IntegerText.range {value : Int} (written : IntegerText value text) :
    -2 ^ 63 ≤ value ∧ value ≤ 2 ^ 63 - 1 := by
  cases written with
  | natural _ below => omega
  | negative _ _ atMost => omega

/-- A record that is written goes without the value of a slot or has a text for it. -/
theorem RecordText.slot (written : RecordText slots record text) {slot : Slot σ}
    (inside : slot ∈ slots) : slot.Absent record ∨ ∃ value, slot.Written record value := by
  cases written with
  | @object entries behind form _ =>
    by_cases named : slot.name ∈ entries.map (·.name)
    · obtain ⟨entry, listed, same⟩ := List.mem_map.1 named
      exact .inr ⟨entry.value, form.written entry listed slot inside same.symm⟩
    · exact .inl (form.absent slot inside named)
  | @sequence values behind form _ =>
    obtain ⟨position, bound, rfl⟩ := List.mem_iff_getElem.1 inside
    by_cases reached : position < values.length
    · have paired : (slots[position], values[position]) ∈ slots.zip values := by
        rw [← List.getElem_zip (h := by rw [List.length_zip]; omega)]
        apply List.getElem_mem
      exact .inr ⟨values[position], form.written _ paired⟩
    · have dropped : slots[position] ∈ slots.drop values.length := by
        apply List.mem_drop_iff_getElem.2
        exact ⟨position - values.length, by omega, by congr; omega⟩
      exact .inl (form.absent _ dropped)

/-- The value that a record has for the slot at a position is written, if the record is. -/
theorem RecordText.value (written : RecordText slots record text) (position : Nat)
    {name : String} {get : σ → Option α} {Form : α → List Char → Prop}
    (declared : slots[position]? = some (.optional name get Form)) {value : α}
    (given : get record = some value) : ∃ part, Form value part := by
  cases written.slot (List.mem_of_getElem? declared) with
  | inl absent =>
    have missing : get record = none := absent
    rw [given] at missing
    contradiction
  | inr present =>
    obtain ⟨part, form⟩ := present
    have form : OptionalText Form (get record) part := form
    rw [given] at form
    exact ⟨part, form⟩

/-- The items that a record lists for the slot at a position are written, if the record is. -/
theorem RecordText.item (written : RecordText slots record text) (position : Nat)
    {name : String} {get : σ → Option (List α)} {Form : α → List Char → Prop}
    (declared : slots[position]? = some (.optional name get (SequenceText Form))) {item : α}
    (member : item ∈ (get record).getD []) : ∃ part, Form item part := by
  cases given : get record with
  | none =>
    rw [given] at member
    contradiction
  | some items =>
    obtain ⟨_, parts, behind, forms, _, rfl, _⟩ := written.value position declared given
    rw [given, Option.getD_some] at member
    obtain ⟨pair, listed, rfl⟩ := List.mem_map.1 member
    exact ⟨pair.2, forms pair listed⟩

end Json

namespace Sarif

/-- The line that a location points at, if the location is written, is an integer of 64 bits. -/
theorem Location.Form.line_le {location : Location} {text : List Char}
    (written : location.Form text) {file : Option ArtifactLocation} {region : Region}
    {line : Int} (points : location.PointsAt file region line) : line ≤ 2 ^ 63 - 1 := by
  obtain ⟨physical, placed, _, ranged, lined, _⟩ := points
  obtain ⟨_, physicalForm⟩ := Json.RecordText.value written 0 rfl placed
  obtain ⟨_, regionForm⟩ := Json.RecordText.value physicalForm 1 rfl ranged
  obtain ⟨_, lineForm⟩ := Json.RecordText.value regionForm 0 rfl lined
  exact lineForm.range.2

/-- The lines that the locations of a decoded log point at are integers of 64 bits. -/
theorem Log.line_le_of_decode {document : String} {log : Log}
    (decoded : Log.decode document = .ok log) {run : Run} (ran : run ∈ log.runList)
    {result : Result} (reported : result ∈ run.resultList) {location : Location}
    (located : location ∈ result.locationList) {file : Option ArtifactLocation} {region : Region}
    {line : Int} (points : location.PointsAt file region line) : line ≤ 2 ^ 63 - 1 := by
  have exact := Log.reader_exact (nestingLimit - 5)
  obtain ⟨_, _, _, _, logForm, _, _⟩ := (Json.Reader.document_eq_ok_iff exact).1 decoded
  obtain ⟨_, runForm⟩ := Json.RecordText.item logForm 0 rfl ran
  obtain ⟨_, resultForm⟩ := Json.RecordText.item runForm 2 rfl reported
  obtain ⟨_, locationForm⟩ := Json.RecordText.item resultForm 4 rfl located
  exact Location.Form.line_le locationForm points

end Sarif

end SarifDigest
