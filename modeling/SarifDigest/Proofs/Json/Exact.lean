import SarifDigest.Proofs.Json.Numbers
import SarifDigest.Proofs.Json.Texts

/-!
# Exact readers

A reader is exact for a relation between values and texts when it reads every text of the
relation in front of a rest, as the value, and reads nothing else. Numbers have no closing mark,
so the rest must not go on with one; what follows an item of a list never does.
-/
namespace SarifDigest.Json

section Ends

/-- Whether a text goes on with a number shows in its first character. -/
theorem Ended.cons {c : Char} {rest : List Char} (ended : Ended [c]) : Ended (c :: rest) :=
  fun head same => ended head same

/-- Space never goes on with a number. -/
theorem Ended.of_space {c : Char} {rest : List Char} (space : isSpace c = true) :
    Ended (c :: rest) := by
  apply Ended.cons
  rcases isSpace_iff.mp space with rfl | rfl | rfl | rfl
  all_goals
    intro head same
    simp only [List.head?_cons, Option.some.injEq] at same
    subst same
    decide

/-- Space in front of a text that does not go on with a number changes nothing. -/
theorem Ended.append {space rest : List Char} (blank : Spaces space) (ended : Ended rest) :
    Ended (space ++ rest) := by
  cases space with
  | nil => exact ended
  | cons c others => exact .of_space (spaces_iff.mp blank c List.mem_cons_self)

/-- A character that no part of a number starts with does not go on with one. -/
theorem ended_singleton {c : Char} (digit : isDigit c = false) (point : c ≠ '.')
    (lower : c ≠ 'e') (upper : c ≠ 'E') : Ended [c] := by
  intro head same
  simp only [List.head?_cons, Option.some.injEq] at same
  subst same
  exact ⟨digit, point, lower, upper⟩

/-- A closing bracket does not go on with a number. -/
theorem ended_bracket : Ended [']'] :=
  ended_singleton (by decide) (by decide) (by decide) (by decide)

/-- A closing brace does not go on with a number. -/
theorem ended_brace : Ended ['\x7d'] :=
  ended_singleton (by decide) (by decide) (by decide) (by decide)

/-- A comma does not go on with a number. -/
theorem ended_comma : Ended [','] :=
  ended_singleton (by decide) (by decide) (by decide) (by decide)

/-- What follows an item of a list does not go on with a number. -/
theorem Listed.ended {close : Char} {others : List (List Char)} {text rest : List Char}
    (closes : Ended [close]) (listed : Listed close false others text) : Ended (text ++ rest) := by
  cases others with
  | nil =>
    obtain ⟨space, blank, rfl⟩ := listed
    rw [List.append_assoc]
    exact .append blank closes.cons
  | cons item others =>
    obtain ⟨_, behind, ⟨before, after, blank, -, rfl⟩, -, rfl⟩ := listed
    rw [List.append_assoc, List.append_assoc]
    exact .append blank ended_comma.cons

end Ends

section Readers

variable {α β κ : Type}

/-- A reader accepts exactly the texts of a relation, each as its value. A text may have space
in front of it and must not go on as a number; it starts with a character that is neither space
nor the end of a sequence. -/
structure Reader.Exact (reader : Reader α) (Form : α → List Char → Prop) : Prop where
  opens : ∀ {value text}, Form value text →
    ∃ c others, text = c :: others ∧ isSpace c = false ∧ c ≠ ']'
  accepts : ∀ {value space text rest}, Spaces space → Form value text → Ended rest →
    reader.run (space ++ (text ++ rest)) = .ok (value, rest)
  returns : ∀ {value text rest}, reader.run text = .ok (value, rest) →
    ∃ space form, Spaces space ∧ Form value form ∧ text = space ++ (form ++ rest)

/-- A reader of keys accepts exactly the texts of a relation from behind their opening quote. -/
structure Reader.ExactKey (reader : Reader κ) (Key : κ → List Char → Prop) : Prop where
  opens : ∀ {name text}, Key name text → ∃ behind, text = '"' :: behind
  accepts : ∀ {name text rest}, Key name ('"' :: text) →
    reader.run (text ++ rest) = .ok (name, rest)
  returns : ∀ {name text rest}, reader.run text = .ok (name, rest) →
    ∃ form, Key name ('"' :: form) ∧ text = form ++ rest

/-- A reader that skips space is exact when its body is, in front of which there is none. -/
theorem Reader.spaced_exact {body : List Char → Except Fault (α × List Char)}
    {shorter : ∀ {text value rest}, body text = .ok (value, rest) → rest.length < text.length}
    {Form : α → List Char → Prop}
    (opens : ∀ {value text}, Form value text →
      ∃ c others, text = c :: others ∧ isSpace c = false ∧ c ≠ ']')
    (accepts : ∀ {value text rest}, Form value text → Ended rest →
      body (text ++ rest) = .ok (value, rest))
    (returns : ∀ {value text rest}, body text = .ok (value, rest) →
      ∃ space form, Spaces space ∧ Form value form ∧ text = space ++ (form ++ rest)) :
    (Reader.spaced body @shorter).Exact Form where
  opens := opens
  accepts := by
    intro value space text rest blank form ended
    obtain ⟨c, others, rfl, solid, -⟩ := opens form
    have read := accepts form ended
    simp only [Reader.spaced, skipSpace_append blank, List.cons_append, skipSpace_cons solid]
    exact read
  returns := by
    intro value text rest read
    obtain ⟨before, blank, front⟩ := skipSpace_split text
    obtain ⟨after, form, more, written, behind⟩ := returns read
    refine ⟨before ++ after, form, blank.append more, written, ?_⟩
    rw [List.append_assoc, ← behind]
    exact front

/-- Changing the value read changes the relation. -/
theorem Reader.Exact.map {reader : Reader α} {Form : α → List Char → Prop}
    (exact : reader.Exact Form) (change : α → β) :
    (reader.map change).Exact fun value text =>
      ∃ found, Form found text ∧ change found = value where
  opens := by
    rintro value text ⟨found, form, -⟩
    exact exact.opens form
  accepts := by
    rintro value space text rest blank ⟨found, form, rfl⟩ ended
    simp [Reader.map, changing, exact.accepts blank form ended, Except.map]
  returns := by
    intro value text rest read
    simp only [Reader.map, changing] at read
    cases inner : reader.run text with
    | error fault => simp [inner, Except.map] at read
    | ok pair =>
      simp only [inner, Except.map, Except.ok.injEq, Prod.mk.injEq] at read
      obtain ⟨rfl, rfl⟩ := read
      obtain ⟨space, form, blank, written, front⟩ := exact.returns inner
      exact ⟨space, form, blank, ⟨_, written, rfl⟩, front⟩

/-- A reader is exact for any relation that says the same. -/
theorem Reader.Exact.congr {reader : Reader α} {Form Other : α → List Char → Prop}
    (exact : reader.Exact Form) (same : ∀ value text, Other value text ↔ Form value text) :
    reader.Exact Other := by
  have equal : Other = Form := by
    funext value text
    exact propext (same value text)
  rw [equal]
  exact exact

/-- Decoded keys are quoted texts. -/
theorem decodedKey_exact : decodedKey.ExactKey QuotedText where
  opens := by
    rintro name text ⟨raw, -, rfl⟩
    exact ⟨_, rfl⟩
  accepts := by
    rintro name text rest ⟨raw, written, same⟩
    simp only [List.cons.injEq, true_and] at same
    subst same
    simp [decodedKey, changing, decodeText_append written, Except.map]
  returns := by
    intro name text rest read
    simp only [decodedKey, changing] at read
    cases inner : decodeText text with
    | error fault => simp [inner, Except.map] at read
    | ok pair =>
      simp only [inner, Except.map, Except.ok.injEq, Prod.mk.injEq] at read
      obtain ⟨rfl, rfl⟩ := read
      obtain ⟨raw, written, rfl⟩ := decodeText_returns inner
      exact ⟨raw ++ ['"'], ⟨raw, by simpa using written, rfl⟩, by simp⟩

/-- Keys that are passed over are texts that are. -/
theorem passedKey_exact : passedKey.ExactKey fun _ text => PassedText text where
  opens := by
    rintro name text ⟨raw, -, rfl⟩
    exact ⟨_, rfl⟩
  accepts := by
    rintro name text rest ⟨raw, written, same⟩
    simp only [List.cons.injEq, true_and] at same
    subst same
    simp [passedKey, giving, passText_append written, Except.map]
  returns := by
    intro name text rest read
    simp only [passedKey, giving] at read
    cases inner : passText text with
    | error fault => simp [inner, Except.map] at read
    | ok last =>
      simp only [inner, Except.map, Except.ok.injEq, Prod.mk.injEq] at read
      obtain ⟨-, rfl⟩ := read
      obtain ⟨raw, written, rfl⟩ := passText_returns inner
      exact ⟨raw ++ ['"'], ⟨raw, written, rfl⟩, by simp⟩

end Readers

end SarifDigest.Json
