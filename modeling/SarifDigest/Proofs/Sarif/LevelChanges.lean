import SarifDigest.Proofs.Json.Changeable
import SarifDigest.Proofs.Sarif.Validity

/-!
# Changing the level of a result

A document may be given another level for one of its results: another value in place of the one that
the result has, or a value where it has none. The document is still that of a log when the value is
one that can be decoded, and the log differs from the one before in this level only. Any other value
is refused, although it might stand at a member that nobody asks for.
-/
namespace SarifDigest.Sarif

open Json (Passed Passes Spaces ItemChange MemberChange MemberSet DocumentChange DocumentText
  documentText_iff validSlots_of_fillings)

/-- The result at a position of the run at a position of a log. -/
def Log.result? (log : Log) (runAt resultAt : Nat) : Option Result :=
  log.runList[runAt]?.bind (·.resultList[resultAt]?)

/-- A log with another level for one of its results. -/
def Log.withLevel (log : Log) (runAt resultAt : Nat) (level : Level) : Log :=
  { log with runs := log.runs.map (·.modify runAt fun run =>
    { run with results := run.results.map (·.modify resultAt fun result =>
      { result with level }) }) }

/-- Documents that differ in the level of the result at a position of the run at a position, and for
which the second has the given value. -/
def LevelChange (runAt resultAt : Nat) (value : List Char) : String → String → Prop :=
  DocumentChange <| MemberChange "runs" 0 <| ItemChange runAt <|
    MemberChange "results" 2 <| ItemChange resultAt <| MemberSet "level" 2 value

section Records

variable {depth index : Nat} {value text text' : List Char}
  {Change : List Char → List Char → Prop}

/-- The level that is put into a result is the one that it has. -/
theorem Result.level_put (level : Level) (result : Result) :
    Result.level { result with level } = level := rfl

/-- The level as a member of results. -/
def Result.levelFilling (depth : Nat) : Json.Filling Result where
  Value := Level
  name := "level"
  reader := Level.reader depth
  Form := Level.Form depth
  exact := Level.reader_exact depth
  put level result := { result with level }
  get := (·.level)
  get_put := Result.level_put
  absent := .none

/-- A null has no level. -/
theorem Level.form_null (depth : Nat) : Level.Form depth .none Json.nullText := by
  refine ⟨.null, ?_, Level.ofValue_eq_iff.1 rfl⟩
  cases depth <;> exact .scalar .null

/-- The members of a result up to its level may be null, which is as if they were not there. -/
theorem Result.nulls (depth : Nat) :
    ∀ filling ∈ (Result.fillings depth).take 3, filling.Form filling.absent Json.nullText := by
  simp only [fillings, List.take_succ_cons, List.take_zero, List.forall_mem_cons,
    List.not_mem_nil, false_implies, implies_true, and_true]
  exact ⟨rfl, rfl, Level.form_null depth⟩

/-- A result with another level is written for the results with a level that the value is written
for. -/
theorem Result.form_iff_of_set {result result' : Result} (passed : Passed value)
    (set : MemberSet "level" 2 value text text') (written : Result.Form depth result text) :
    Result.Form depth result' text' ↔
      ∃ level, Level.Form depth level value ∧ result' = { result with level } := by
  have there : (Result.fillings depth)[2]? = some (Result.levelFilling depth) := rfl
  exact MemberSet.recordText_iff (Result.complete depth) there (Result.fillings_valid depth)
    (Result.nulls depth) passed set written

/-- A run with a changed result is written for the runs with what the new text is written for in
place of the result. -/
theorem Run.form_iff_of_change {run : Run} (passes : Passes Change)
    (change : MemberChange "results" 2 (ItemChange index Change) text text')
    (written : Run.Form depth run text) :
    ∃ results result old new, run.results = some results ∧ results[index]? = some result ∧
      Result.Form depth result old ∧ Change old new ∧
      ∀ run', Run.Form depth run' text' ↔ ∃ result', Result.Form depth result' new ∧
        run' = { run with results := some (results.set index result') } :=
  MemberChange.items_iff (Result.reader_exact depth) (Run.complete depth) rfl
    (Run.fillings_valid depth) (Result.form_valid depth) passes change written

/-- A log with a changed run is written for the logs with what the new text is written for in place
of the run. -/
theorem Log.form_iff_of_change {log : Log} (passes : Passes Change)
    (change : MemberChange "runs" 0 (ItemChange index Change) text text')
    (written : Log.Form depth log text) :
    ∃ runs run old new, log.runs = some runs ∧ runs[index]? = some run ∧
      Run.Form depth run old ∧ Change old new ∧
      ∀ log', Log.Form depth log' text' ↔ ∃ run', Run.Form depth run' new ∧
        log' = { log with runs := some (runs.set index run') } :=
  MemberChange.items_iff (Run.reader_exact depth) (Log.complete depth) rfl
    (Log.fillings_valid depth) (Run.form_valid depth) passes change written

end Records

/-- A document with another level for one of its results is written for the logs with a level that
the value is written for. -/
theorem documentText_iff_of_levelChange {document document' : String} {log : Log} {depth : Nat}
    {runAt resultAt : Nat} {value : List Char} (passed : Passed value)
    (change : LevelChange runAt resultAt value document document')
    (written : DocumentText (Log.Form depth) log document) :
    (∃ result, log.result? runAt resultAt = some result) ∧
    ∀ log', DocumentText (Log.Form depth) log' document' ↔
      ∃ level, Level.Form depth level value ∧ log' = log.withLevel runAt resultAt level := by
  obtain ⟨before, text, behind, before', text', behind', left, right, left', right', changed,
    whole, whole'⟩ := change
  have results : Passes (MemberSet "level" 2 value) := fun _ _ set => set.passed passed
  have runs : Passes (MemberChange "results" 2 (ItemChange resultAt (MemberSet "level" 2 value))) :=
    fun _ _ change => change.passed fun _ _ item => item.passed results
  have passed' : Passed text' := changed.passed fun _ _ item => item.passed runs
  rw [documentText_iff (Log.form_valid depth) changed.passed_before left right whole] at written
  obtain ⟨runList, run, runText, runText', runsGiven, runThere, runForm, runChanged, logs⟩ :=
    Log.form_iff_of_change runs changed written
  obtain ⟨resultList, result, resultText, resultText', resultsGiven, resultThere, resultForm,
    levelSet, runs'⟩ := Run.form_iff_of_change results runChanged runForm
  constructor
  · refine ⟨result, ?_⟩
    simp [Log.result?, Log.runList, runsGiven, runThere, Run.resultList, resultsGiven, resultThere]
  · intro log'
    have changedLog (level : Level) : log.withLevel runAt resultAt level =
        { log with runs := some (runList.set runAt
          { run with results := some (resultList.set resultAt { result with level }) }) } := by
      simp [Log.withLevel, List.modify_eq_set_getElem?, runsGiven, runThere, resultsGiven,
        resultThere]
    rw [documentText_iff (Log.form_valid depth) passed' left' right' whole', logs]
    simp only [runs', Result.form_iff_of_set passed levelSet resultForm, changedLog]
    constructor
    · rintro ⟨_, ⟨_, ⟨level, form, rfl⟩, rfl⟩, rfl⟩
      exact ⟨level, form, rfl⟩
    · rintro ⟨level, form, rfl⟩
      exact ⟨_, ⟨_, ⟨level, form, rfl⟩, rfl⟩, rfl⟩

/-- An element of a list that may be missing is one of a list that is there. -/
theorem getElem?_getD_eq_some_iff {α : Type} {list : Option (List α)} {position : Nat}
    {element : α} : (list.getD [])[position]? = some element ↔
      ∃ given, list = some given ∧ given[position]? = some element := by
  cases list with
  | none => simp
  | some given => simp

/-- A document can be given any value as the level of each result of its log. -/
theorem exists_levelChange {document : String} {log : Log} {depth runAt resultAt : Nat}
    {result : Result} (written : DocumentText (Log.Form depth) log document)
    (there : log.result? runAt resultAt = some result) (value : List Char) :
    ∃ document', LevelChange runAt resultAt value document document' := by
  obtain ⟨before, text, behind, left, form, right, whole⟩ := written
  obtain ⟨run, runThere, resultThere⟩ := Option.bind_eq_some_iff.1 there
  obtain ⟨runs, runsGiven, runThere⟩ := getElem?_getD_eq_some_iff.1 runThere
  obtain ⟨results, resultsGiven, resultThere⟩ := getElem?_getD_eq_some_iff.1 resultThere
  have levelSet : ∀ old, Result.Form depth result old →
      ∃ new, MemberSet "level" 2 value old new := by
    intro old form
    have plain : Json.PlainName "level" := by decide
    have level : ((Result.fillings depth).map (·.slot))[2]? =
        some (Result.levelFilling depth).slot := rfl
    exact form.exists_set (validSlots_of_fillings (Result.fillings_valid depth)) level plain value
  have resultChanged : ∀ old, Run.Form depth run old → ∃ new,
      MemberChange "results" 2 (ItemChange resultAt (MemberSet "level" 2 value)) old new :=
    fun old form => form.exists_itemChange (Result.reader_exact depth) rfl
      (Run.fillings_valid depth) (Result.form_valid depth) resultsGiven resultThere levelSet
  have runChanged : ∃ text', MemberChange "runs" 0 (ItemChange runAt
      (MemberChange "results" 2 (ItemChange resultAt (MemberSet "level" 2 value)))) text text' :=
    form.exists_itemChange (Run.reader_exact depth) rfl (Log.fillings_valid depth)
      (Run.form_valid depth) runsGiven runThere resultChanged
  obtain ⟨text', change⟩ := runChanged
  exact ⟨.ofList text', before, text, behind, [], text', [], left, right, Spaces.nil, Spaces.nil,
    change, whole, by simp⟩

/-- A document that is accepted can be given any value as the level of a result exactly when its log
has this result. With a valid value it is accepted exactly when the value can be decoded, nested at
most as deep as the five objects and sequences around it leave room for. Then it decodes as the same
log but for that level, which is the one that the value stands for: that of its word, and none for
every other value. -/
theorem Log.decode_levelChange {document : String} {log : Log} {value : List Char}
    (decoded : Log.decode document = .ok log) (passed : Passed value) (runAt resultAt : Nat) :
    ((∃ document', LevelChange runAt resultAt value document document') ↔
      ∃ result, log.result? runAt resultAt = some result) ∧
    ∀ document', LevelChange runAt resultAt value document document' →
      ((∃ log', Log.decode document' = .ok log') ↔
        ∃ given, Json.decoding.Writes (nestingLimit - 5) given value) ∧
      ∀ given, Json.decoding.Writes (nestingLimit - 5) given value →
        ∃ level : Level, level.Stands given ∧
          Log.decode document' = .ok (log.withLevel runAt resultAt level) := by
  have read {document : String} {log : Log} : Log.decode document = .ok log ↔
      DocumentText (Log.Form (nestingLimit - 5)) log document :=
    Json.Reader.document_eq_ok_iff (Log.reader_exact (nestingLimit - 5))
  have written := read.1 decoded
  refine ⟨⟨?there, ?given⟩, fun document' change => ?_⟩
  case there =>
    rintro ⟨document', change⟩
    exact (documentText_iff_of_levelChange passed change written).1
  case given =>
    rintro ⟨result, there⟩
    exact exists_levelChange written there value
  obtain ⟨_, logs⟩ := documentText_iff_of_levelChange passed change written
  have changed (given : Json.Value)
      (writes : Json.decoding.Writes (nestingLimit - 5) given value) :
      ∃ level : Level, level.Stands given ∧
        Log.decode document' = .ok (log.withLevel runAt resultAt level) := by
    have stands := Level.ofValue_eq_iff.1 (Eq.refl (Level.ofValue given))
    exact ⟨_, stands, read.2 ((logs _).2 ⟨_, ⟨given, writes, stands⟩, rfl⟩)⟩
  refine ⟨⟨?refused, ?accepted⟩, changed⟩
  case refused =>
    rintro ⟨log', accepted⟩
    obtain ⟨level, ⟨given, writes, _⟩, _⟩ := (logs log').1 (read.1 accepted)
    exact ⟨given, writes⟩
  case accepted =>
    rintro ⟨given, writes⟩
    obtain ⟨level, _, accepted⟩ := changed given writes
    exact ⟨_, accepted⟩

section Single

open Json (Listed Entry QuotedText PlainName)

variable {name : String} {item item' value value' : List Char}
  {Change : List Char → List Char → Prop}

/-- What stands in brackets alone. -/
def single (item : List Char) : List Char :=
  '[' :: (item ++ [']'])

/-- A member without space, whose name is spelled without escapes. -/
def plainMember (name : String) (value : List Char) : Entry String :=
  ⟨name, Json.quoted name, [], [], value⟩

/-- An object with a member alone. -/
def singleMember (name : String) (value : List Char) : List Char :=
  '\x7b' :: ((plainMember name value).text ++ ['\x7d'])

/-- A list of a single item. -/
theorem listed_single (close : Char) (item : List Char) :
    Listed close true [item] (item ++ [close]) :=
  ⟨[], [close], Spaces.nil, ⟨[], Spaces.nil, rfl⟩, rfl⟩

/-- A member whose name needs no escapes is well formed. -/
theorem plainMember_formed (plain : PlainName name) (value : List Char) :
    (plainMember name value).Formed QuotedText where
  key := plain.quotedText
  before := Spaces.nil
  after := Spaces.nil

/-- An item that can be passed over can be so in brackets. -/
theorem passed_single (passed : Passed item) : Passed (single item) :=
  Json.passed_sequence (List.forall_mem_singleton.2 passed) (listed_single ']' item)

/-- A value that can be passed over can be so as a member. -/
theorem passed_singleMember (plain : PlainName name) (passed : Passed value) :
    Passed (singleMember name value) := by
  have whole : ∀ entry ∈ [plainMember name value], entry.Whole :=
    List.forall_mem_singleton.2 ⟨plainMember_formed plain value, passed⟩
  exact Json.passed_object whole (listed_single '\x7d' _)

/-- The item in brackets can be changed. -/
theorem itemChange_single (passed : Passed item) (change : Change item item') :
    ItemChange 0 Change (single item) (single item') :=
  @ItemChange.item 0 Change [] [] item item' _ _ rfl (List.forall_mem_singleton.2 passed) change
    (listed_single ']' item) (listed_single ']' item')

/-- The value of the member can be changed. -/
theorem memberChange_singleMember (position : Nat) (plain : PlainName name) (passed : Passed value)
    (change : Change value value') :
    MemberChange name position Change (singleMember name value) (singleMember name value') :=
  @MemberChange.object name position Change [] [] (plainMember name value)
    (plainMember name value') _ _
    (List.forall_mem_singleton.2 ⟨plainMember_formed plain value, passed⟩)
    (plainMember_formed plain value') rfl rfl change
    (listed_single '\x7d' (plainMember name value).text)
    (listed_single '\x7d' (plainMember name value').text)

/-- A document of a single result with nothing but a level. -/
def leveledDocument (value : String) : String :=
  .ofList (singleMember "runs" (single (singleMember "results" (single
    (singleMember "level" value.toList)))))

/-- The level of this document can be changed. -/
theorem levelChange_leveledDocument {value value' : String} (passed : Passed value.toList) :
    LevelChange 0 0 value'.toList (leveledDocument value) (leveledDocument value') := by
  have levels : PlainName "level" := by decide
  have results : PlainName "results" := by decide
  have runs : PlainName "runs" := by decide
  have result := passed_singleMember levels passed
  have run := passed_singleMember results (passed_single result)
  refine ⟨[], _, [], [], _, [], Spaces.nil, Spaces.nil, Spaces.nil, Spaces.nil,
    memberChange_singleMember 0 runs (passed_single run) (itemChange_single run
      (memberChange_singleMember 2 results (passed_single result) (itemChange_single result
        (.inl (memberChange_singleMember 2 levels passed rfl))))), ?_, ?_⟩
  · simp [leveledDocument]
  · simp [leveledDocument]

/-- A value that is passed over to the end of a text is the whole text, if no space is in front. -/
theorem passed_of_run {c : Char} {others : List Char} (solid : Json.isSpace c = false)
    (read : Json.passed.run (c :: others) = .ok ((), [])) : Passed (c :: others) := by
  obtain ⟨space, form, blank, written, front⟩ := Json.passed_exact.returns read
  cases space with
  | nil =>
    rw [List.nil_append, List.append_nil] at front
    rw [front]
    exact written
  | cons d space =>
    cases front
    rw [Json.spaces_iff.mp blank c List.mem_cons_self] at solid
    contradiction

end Single

/-- The log of such a document. -/
def leveledLog (level : Level) : Log :=
  ⟨some [{ results := some [{ level }] }]⟩

/-- A level that is known may give way to a value of another kind, nested in itself and with a
number that is nearly too large. -/
theorem Log.decode_levelChange_mistyped :
    Log.decode (leveledDocument "\"error\"") = .ok (leveledLog .error) ∧
    Passed "[[-1e308,null]]".toList ∧
    LevelChange 0 0 "[[-1e308,null]]".toList (leveledDocument "\"error\"")
      (leveledDocument "[[-1e308,null]]") ∧
    ∃ given, Json.decoding.Writes (nestingLimit - 5) given "[[-1e308,null]]".toList ∧
      Level.none.Stands given ∧
      Log.decode (leveledDocument "[[-1e308,null]]") = .ok (leveledLog .none) := by
  have decoded : Log.decode (leveledDocument "\"error\"") = .ok (leveledLog .error) := by
    decide +kernel
  have decoded' : Log.decode (leveledDocument "[[-1e308,null]]") = .ok (leveledLog .none) := by
    decide +kernel
  have passed : Passed "\"error\"".toList := passed_of_run (by decide) (by decide +kernel)
  have passed' : Passed "[[-1e308,null]]".toList := passed_of_run (by decide) (by decide +kernel)
  have change : LevelChange 0 0 "[[-1e308,null]]".toList (leveledDocument "\"error\"")
      (leveledDocument "[[-1e308,null]]") := levelChange_leveledDocument passed
  obtain ⟨accepted, changed⟩ := (Log.decode_levelChange decoded passed' 0 0).2 _ change
  obtain ⟨given, written⟩ := accepted.1 ⟨_, decoded'⟩
  obtain ⟨level, stands, same⟩ := changed given written
  have logs : leveledLog .none = leveledLog level := Except.ok.inj (decoded'.symm.trans same)
  have levels : level = .none := by
    simp only [leveledLog, Log.mk.injEq, Option.some.injEq, List.cons.injEq, Run.mk.injEq,
      Result.mk.injEq, true_and, and_true] at logs
    exact logs.symm
  rw [levels] at stands
  exact ⟨decoded, passed', change, given, written, stands, decoded'⟩

/-- A number that is too large is a valid value, which a member that nobody asks for may have, but a
document with such a level is refused. -/
theorem Log.not_decode_levelChange_huge :
    Log.decode (leveledDocument "\"error\"") = .ok (leveledLog .error) ∧
    Passed "1e999".toList ∧
    LevelChange 0 0 "1e999".toList (leveledDocument "\"error\"") (leveledDocument "1e999") ∧
    leveledDocument "1e999" =
      "\x7b\"runs\":[\x7b\"results\":[\x7b\"level\":1e999\x7d]\x7d]\x7d" ∧
    ¬ ∃ log, Log.decode (leveledDocument "1e999") = .ok log := by
  have passed : Passed "\"error\"".toList := passed_of_run (by decide) (by decide +kernel)
  have refused : (Log.decode (leveledDocument "1e999")).isOk = false := by decide +kernel
  refine ⟨by decide +kernel, passed_of_run (by decide) (by decide +kernel),
    levelChange_leveledDocument passed, by decide +kernel, ?_⟩
  rintro ⟨log, decoded⟩
  rw [decoded] at refused
  contradiction

end SarifDigest.Sarif
