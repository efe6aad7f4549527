import SarifDigest.Proofs.Json.Exact

/-!
# Reading lists

The loops over the items of a sequence and over the members of an object accept exactly the
lists of what their readers are exact for. A loop over members carries a state, and the state
and the key choose the reader of the value, so members form a chain of steps.
-/
namespace SarifDigest.Json

section Marks

variable {manner : Manner} {first : Bool} {c : Char} {text rest : List Char}

/-- Space behind a separator belongs to it. -/
theorem Separator.append {separator space : List Char} (separates : Separator first separator)
    (blank : Spaces space) : Separator first (separator ++ space) := by
  cases first with
  | true => exact Spaces.append separates blank
  | false =>
    obtain ⟨before, behind, left, right, rfl⟩ := separates
    exact ⟨before, behind ++ space, left, right.append blank, by simp⟩

/-- A bracket behind space closes a sequence. -/
theorem nextItem_close {space : List Char} (blank : Spaces space) :
    nextItem manner first (space ++ ']' :: rest) = .ok (.closed rest) := by
  unfold nextItem
  rw [skipSpace_append blank, skipSpace_cons (by decide)]
  rfl

/-- What stands behind a separator and is neither space nor a bracket starts an item. -/
theorem nextItem_more {separator : List Char} (separates : Separator first separator)
    (solid : isSpace c = false) (other : c ≠ ']') :
    nextItem manner first (separator ++ c :: text) = .ok (.more (c :: text)) := by
  cases first with
  | true =>
    have blank : Spaces separator := separates
    simp [nextItem, skipSpace_append blank, skipSpace_cons solid]
  | false =>
    obtain ⟨before, behind, left, right, rfl⟩ := separates
    have comma : isSpace ',' = false := by decide
    simp [nextItem, skipSpace_append left, skipSpace_append right, skipSpace_cons solid,
      skipSpace_cons comma, other]

/-- A sequence is closed by a bracket behind space only. -/
theorem nextItem_closed (read : nextItem manner first text = .ok (.closed rest)) :
    ∃ space, Spaces space ∧ text = space ++ ']' :: rest := by
  obtain ⟨space, blank, front⟩ := skipSpace_split text
  unfold nextItem at read
  split at read
  · simp [refuseAt] at read
  · rename_i last start
    simp only [Except.ok.injEq, Next.closed.injEq] at read
    rw [start, read] at front
    exact ⟨space, blank, front⟩
  · split at read
    · simp at read
    · split at read
      · split at read
        · simp [refuseAt] at read
        · simp [refuseAfter] at read
        · simp at read
      · simp [refuseAfter] at read

/-- An item comes behind a separator only. -/
theorem nextItem_continues (read : nextItem manner first text = .ok (.more rest)) :
    ∃ separator, Separator first separator ∧ text = separator ++ rest := by
  obtain ⟨space, blank, front⟩ := skipSpace_split text
  unfold nextItem at read
  split at read
  · simp [refuseAt] at read
  · simp at read
  · rename_i d others _ start
    rw [start] at front
    split at read
    · rename_i isFirst
      simp only [Except.ok.injEq, Next.more.injEq] at read
      refine ⟨space, ?_, ?_⟩
      · rw [isFirst]
        exact blank
      · rw [← read]
        exact front
    · rename_i isNext
      split at read
      · rename_i comma
        obtain ⟨after, more, behind⟩ := skipSpace_split others
        split at read
        · simp [refuseAt] at read
        · simp [refuseAfter] at read
        · simp only [Except.ok.injEq, Next.more.injEq] at read
          rw [read] at behind
          simp only [Bool.not_eq_true] at isNext
          refine ⟨space ++ ',' :: after, ?_, ?_⟩
          · rw [isNext]
            exact ⟨space, after, blank, more, rfl⟩
          · rw [front, comma, behind]
            simp
      · simp [refuseAfter] at read

/-- A brace behind space closes an object. -/
theorem nextKey_close {space : List Char} (blank : Spaces space) :
    nextKey manner first (space ++ '\x7d' :: rest) = .ok (.closed rest) := by
  unfold nextKey
  rw [skipSpace_append blank, skipSpace_cons (by decide)]
  rfl

/-- A quote behind a separator starts a member. -/
theorem nextKey_more {separator : List Char} (separates : Separator first separator) :
    nextKey manner first (separator ++ '"' :: text) = .ok (.more text) := by
  have quote : isSpace '"' = false := by decide
  cases first with
  | true =>
    have blank : Spaces separator := separates
    simp [nextKey, skipSpace_append blank, skipSpace_cons quote, keyStart]
  | false =>
    obtain ⟨before, behind, left, right, rfl⟩ := separates
    have comma : isSpace ',' = false := by decide
    simp [nextKey, skipSpace_append left, skipSpace_append right, skipSpace_cons quote,
      skipSpace_cons comma, keyStart]

/-- A member starts with a quote only. -/
theorem keyStart_continues (read : keyStart text = .ok (.more rest)) : text = '"' :: rest := by
  unfold keyStart at read
  split at read
  · simp only [Except.ok.injEq, Next.more.injEq] at read
    rw [read]
  · simp [refuseAfter] at read

/-- An object is closed by a brace behind space only. -/
theorem nextKey_closed (read : nextKey manner first text = .ok (.closed rest)) :
    ∃ space, Spaces space ∧ text = space ++ '\x7d' :: rest := by
  obtain ⟨space, blank, front⟩ := skipSpace_split text
  unfold nextKey at read
  split at read
  · simp [refuseAt] at read
  · rename_i last start
    simp only [Except.ok.injEq, Next.closed.injEq] at read
    rw [start, read] at front
    exact ⟨space, blank, front⟩
  · split at read
    · exact absurd read keyStart_ne_closed
    · split at read
      · split at read
        · simp [refuseAt] at read
        · simp [refuseAfter] at read
        · exact absurd read keyStart_ne_closed
      · simp [refuseAfter] at read

/-- A member comes behind a separator only. -/
theorem nextKey_continues (read : nextKey manner first text = .ok (.more rest)) :
    ∃ separator, Separator first separator ∧ text = separator ++ '"' :: rest := by
  obtain ⟨space, blank, front⟩ := skipSpace_split text
  unfold nextKey at read
  split at read
  · simp [refuseAt] at read
  · simp at read
  · rename_i d others _ start
    rw [start] at front
    split at read
    · rename_i isFirst
      rw [keyStart_continues read] at front
      refine ⟨space, ?_, front⟩
      rw [isFirst]
      exact blank
    · rename_i isNext
      split at read
      · rename_i comma
        obtain ⟨after, more, behind⟩ := skipSpace_split others
        split at read
        · simp [refuseAt] at read
        · simp [refuseAfter] at read
        · rw [keyStart_continues read] at behind
          simp only [Bool.not_eq_true] at isNext
          refine ⟨space ++ ',' :: after, ?_, ?_⟩
          · rw [isNext]
            exact ⟨space, after, blank, more, rfl⟩
          · rw [front, comma, behind]
            simp
      · simp [refuseAfter] at read

/-- A colon behind space is read. -/
theorem readColon_append {space : List Char} (blank : Spaces space) :
    readColon (space ++ ':' :: rest) = .ok rest := by
  unfold readColon
  rw [skipSpace_append blank, skipSpace_cons (by decide)]
  rfl

/-- A colon is read behind space only. -/
theorem readColon_returns (read : readColon text = .ok rest) :
    ∃ space, Spaces space ∧ text = space ++ ':' :: rest := by
  obtain ⟨space, blank, front⟩ := skipSpace_split text
  unfold readColon at read
  split at read
  · simp [refuseAt] at read
  · rename_i last start
    simp only [Except.ok.injEq] at read
    rw [start, read] at front
    exact ⟨space, blank, front⟩
  · simp [refuseAfter] at read

end Marks

section Items

variable {α : Type} {manner : Manner} {item : Reader α} {Form : α → List Char → Prop}

/-- The items end where the sequence is closed. -/
theorem readItems_of_closed {first : Bool} {text rest : List Char}
    (start : nextItem manner first text = .ok (.closed rest)) :
    readItems manner item first text = .ok ([], rest) := by
  rw [readItems]
  split <;> simp_all

/-- An item that is read is the first, and the others are those of the rest. -/
theorem readItems_of_more {first : Bool} {text next rest : List Char} {value : α}
    (start : nextItem manner first text = .ok (.more next))
    (read : item.run next = .ok (value, rest)) :
    readItems manner item first text =
      (readItems manner item false rest).map fun (others, last) => (value :: others, last) := by
  rw [readItems]
  split
  · simp_all
  · simp_all
  · rename_i other start'
    rw [start, Except.ok.injEq, Next.more.injEq] at start'
    subst start'
    split <;> simp_all

/-- The items of a list are read up to its bracket. -/
theorem readItems_append (exact : item.Exact Form) {parts : List (α × List Char)}
    (each : ∀ part ∈ parts, Form part.1 part.2) {first : Bool} {text rest : List Char}
    (listed : Listed ']' first (parts.map (·.2)) text) :
    readItems manner item first (text ++ rest) = .ok (parts.map (·.1), rest) := by
  induction parts generalizing first text with
  | nil =>
    obtain ⟨space, blank, rfl⟩ := listed
    exact readItems_of_closed (by simpa using nextItem_close blank)
  | cons part others ih =>
    obtain ⟨separator, behind, separates, tail, rfl⟩ := listed
    have form := each part List.mem_cons_self
    obtain ⟨c, inner, same, solid, other⟩ := exact.opens form
    have start : nextItem manner first (separator ++ (part.2 ++ behind) ++ rest) =
        .ok (.more (part.2 ++ (behind ++ rest))) := by
      rw [same, List.append_assoc, List.append_assoc]
      exact nextItem_more separates solid other
    -- An item may be a number, so what follows it has to stop it.
    have stop : Ended (behind ++ rest) := tail.ended ended_bracket
    have read := exact.accepts .nil form stop
    rw [List.nil_append] at read
    rw [readItems_of_more start read,
      ih (fun part inside => each part (List.mem_cons_of_mem _ inside)) tail]
    rfl

/-- What is read as items is a list of them, with the rest behind its bracket. -/
theorem readItems_returns (exact : item.Exact Form) {first : Bool} {text rest : List Char}
    {values : List α} (read : readItems manner item first text = .ok (values, rest)) :
    ∃ (parts : List (α × List Char)) (form : List Char),
      (∀ part ∈ parts, Form part.1 part.2) ∧ Listed ']' first (parts.map (·.2)) form ∧
        values = parts.map (·.1) ∧ text = form ++ rest := by
  fun_induction readItems manner item first text generalizing values rest with
  | case1 => simp at read
  | case2 first text last start =>
    obtain ⟨space, blank, front⟩ := nextItem_closed start
    simp only [Except.ok.injEq, Prod.mk.injEq] at read
    obtain ⟨rfl, rfl⟩ := read
    exact ⟨[], space ++ [']'], by simp, ⟨space, blank, rfl⟩, rfl, by simp [front]⟩
  | case3 => simp at read
  | case4 first text next start value middle found shorter length ih =>
    cases tail : readItems manner item false middle with
    | error fault => simp [tail, Except.map] at read
    | ok pair =>
      obtain ⟨others, final⟩ := pair
      obtain ⟨parts, form, each, listed, rfl, behind⟩ := ih tail
      simp only [tail, Except.map, Except.ok.injEq, Prod.mk.injEq] at read
      obtain ⟨rfl, rfl⟩ := read
      obtain ⟨separator, separates, front⟩ := nextItem_continues start
      obtain ⟨space, inner, blank, written, middleFront⟩ := exact.returns found
      refine ⟨(value, inner) :: parts, separator ++ space ++ (inner ++ form), ?_, ?_, rfl, ?_⟩
      · simp only [List.mem_cons, forall_eq_or_imp]
        exact ⟨written, each⟩
      · exact ⟨separator ++ space, form, separates.append blank, listed, rfl⟩
      · rw [front, middleFront, behind]
        simp

end Items

section Members

variable {κ σ : Type} {manner : Manner} {key : Reader κ} {Key : κ → List Char → Prop}
  {choose : σ → κ → Except Cause (Reader σ)} {Step : σ → κ → σ → List Char → Prop}

/-- A choice of readers follows a relation when it refuses a key that no step can have, and is
exact for the steps of any other. -/
def Chooses (choose : σ → κ → Except Cause (Reader σ))
    (Step : σ → κ → σ → List Char → Prop) : Prop :=
  ∀ state name,
    match choose state name with
    | .ok reader => reader.Exact (Step state name)
    | .error _ => ∀ next text, ¬Step state name next text

/-- The members of an object as steps from a state to a state. -/
def Chain (Step : σ → κ → σ → List Char → Prop) : σ → List (Entry κ) → σ → Prop
  | state, [], final => final = state
  | state, entry :: others, final =>
    ∃ next, Step state entry.name next entry.value ∧ Chain Step next others final

/-- The members end where the object is closed. -/
theorem readMembers_of_closed {first : Bool} {state : σ} {text rest : List Char}
    (start : nextKey manner first text = .ok (.closed rest)) :
    readMembers manner key choose first state text = .ok (state, rest) := by
  rw [readMembers]
  split <;> simp_all

/-- A member that is read gives the state from which the others are read. -/
theorem readMembers_of_more {first : Bool} {state middle : σ} {name : κ} {value : Reader σ}
    {text next behind after rest : List Char}
    (start : nextKey manner first text = .ok (.more next))
    (named : key.run next = .ok (name, behind)) (chosen : choose state name = .ok value)
    (colon : readColon behind = .ok after) (read : value.run after = .ok (middle, rest)) :
    readMembers manner key choose first state text =
      readMembers manner key choose false middle rest := by
  rw [readMembers]
  split
  · simp_all
  · simp_all
  · rename_i other start'
    rw [start, Except.ok.injEq, Next.more.injEq] at start'
    subst start'
    split
    · simp_all
    · rename_i found last named'
      rw [named, Except.ok.injEq, Prod.mk.injEq] at named'
      obtain ⟨rfl, rfl⟩ := named'
      simp only [chosen]
      split
      · simp_all
      · rename_i last colon'
        rw [colon, Except.ok.injEq] at colon'
        subst colon'
        split <;> simp_all

/-- Members that form a chain are read up to the brace, and the state is its end. -/
theorem readMembers_append (exactKey : key.ExactKey Key) (chooses : Chooses choose Step)
    {entries : List (Entry κ)} (formed : ∀ entry ∈ entries, entry.Formed Key)
    {first : Bool} {state final : σ} (chain : Chain Step state entries final)
    {text rest : List Char} (listed : Listed '\x7d' first (entries.map (·.text)) text) :
    readMembers manner key choose first state (text ++ rest) = .ok (final, rest) := by
  induction entries generalizing first state text with
  | nil =>
    obtain ⟨space, blank, rfl⟩ := listed
    rw [chain]
    exact readMembers_of_closed (by simpa using nextKey_close blank)
  | cons entry others ih =>
    obtain ⟨separator, behind, separates, tail, rfl⟩ := listed
    obtain ⟨next, step, further⟩ := chain
    obtain ⟨named, before, after⟩ := formed entry List.mem_cons_self
    obtain ⟨inner, quoted⟩ := exactKey.opens named
    have stop : Ended (behind ++ rest) := tail.ended ended_brace
    have choice := chooses state entry.name
    cases chosen : choose state entry.name with
    | error cause =>
      simp only [chosen] at choice
      exact absurd step (choice next entry.value)
    | ok value =>
      simp only [chosen] at choice
      have start : nextKey manner first (separator ++ '"' :: (inner ++ (entry.before ++
          ':' :: (entry.after ++ (entry.value ++ (behind ++ rest)))))) = .ok (.more _) :=
        nextKey_more separates
      have front : separator ++ (entry.text ++ behind) ++ rest = separator ++ '"' :: (inner ++
          (entry.before ++ ':' :: (entry.after ++ (entry.value ++ (behind ++ rest))))) := by
        simp [Entry.text, quoted]
      rw [quoted] at named
      rw [front, readMembers_of_more start (exactKey.accepts named) chosen (readColon_append before)
        (choice.accepts after step stop)]
      exact ih (fun entry inside => formed entry (List.mem_cons_of_mem _ inside)) further tail

/-- What is read as members is a list of them that forms a chain, with the rest behind its
brace. -/
theorem readMembers_returns (exactKey : key.ExactKey Key) (chooses : Chooses choose Step)
    {first : Bool} {state final : σ} {text rest : List Char}
    (read : readMembers manner key choose first state text = .ok (final, rest)) :
    ∃ (entries : List (Entry κ)) (form : List Char),
      (∀ entry ∈ entries, entry.Formed Key) ∧ Chain Step state entries final ∧
        Listed '\x7d' first (entries.map (·.text)) form ∧ text = form ++ rest := by
  fun_induction readMembers manner key choose first state text with
  | case1 => simp at read
  | case2 first state text last start =>
    obtain ⟨space, blank, front⟩ := nextKey_closed start
    simp only [Except.ok.injEq, Prod.mk.injEq] at read
    obtain ⟨rfl, rfl⟩ := read
    exact ⟨[], space ++ ['\x7d'], by simp, rfl, ⟨space, blank, rfl⟩, by simp [front]⟩
  | case3 => simp at read
  | case4 => simp [refuseAt] at read
  | case5 => simp at read
  | case6 => simp at read
  | case7 first state text next start found last name value chosen after colon middle tail
      valueRead _ _ _ _ ih =>
    have choice := chooses state found
    simp only [chosen] at choice
    obtain ⟨entries, form, formed, chain, listed, behind⟩ := ih read
    obtain ⟨separator, separates, front⟩ := nextKey_continues start
    obtain ⟨keyText, named, keyFront⟩ := exactKey.returns name
    obtain ⟨before, left, colonFront⟩ := readColon_returns colon
    obtain ⟨space, inner, right, step, valueFront⟩ := choice.returns valueRead
    -- The space behind the colon is what the reader of the value skipped.
    let entry : Entry κ := ⟨found, '"' :: keyText, before, space, inner⟩
    refine ⟨entry :: entries, separator ++ (entry.text ++ form), ?_, ?_, ?_, ?_⟩
    · simp only [List.mem_cons, forall_eq_or_imp]
      exact ⟨⟨named, left, right⟩, formed⟩
    · exact ⟨middle, step, chain⟩
    · exact ⟨separator, form, separates, listed, rfl⟩
    · rw [front, keyFront, colonFront, valueFront, behind]
      simp [entry, Entry.text]

end Members

end SarifDigest.Json
