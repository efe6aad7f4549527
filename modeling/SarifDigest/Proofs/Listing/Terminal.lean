import SarifDigest.Listing.Human
import SarifDigest.Proofs.Text.FirstLine
import SarifDigest.Text.Loop

/-!
# Lines on a terminal

A terminal shows the characters that it is sent, except for sequences that set an attribute: an
escape, a bracket, digits and the letter `m`. Each character is shown in the style that the
sequences before it have left. A line in style opens a span of a colour or of bold with one
sequence and closes it with another, so the characters of its pieces are shown in the styles of the
pieces, and what is left of it without the sequences is the line without style. All this needs the
texts of the pieces to have no escape: text that only looks like the rest of a sequence is harmless.
-/
namespace SarifDigest

namespace Text

/-- A text without the escape that starts a sequence. -/
def Unescaped (text : String) : Prop :=
  '\x1b' ∉ text.toList

instance (text : String) : Decidable (Unescaped text) :=
  inferInstanceAs (Decidable ('\x1b' ∉ text.toList))

/-- Two texts in a row have no escape when neither has one. -/
@[simp] theorem unescaped_append {front back : String} :
    Unescaped (front ++ back) ↔ Unescaped front ∧ Unescaped back := by
  simp [Unescaped]

/-- A natural number has no escape. -/
theorem unescaped_natural (value : Nat) : Unescaped (toString value) := by
  intro inside
  have digit : Char.isDigit '\x1b' = true := isDigit_of_mem_natural inside
  contradiction

/-- A text is what it starts with and the rest. -/
theorem behind?_eq_some_iff {start text rest : List Char} :
    behind? start text = some rest ↔ text = start ++ rest := by
  unfold behind?
  rw [Option.ite_none_right_eq_some, List.isPrefixOf_iff_prefix]
  constructor
  · rintro ⟨⟨other, rfl⟩, same⟩
    rw [List.drop_left, Option.some.injEq] at same
    rw [same]
  · rintro rfl
    exact ⟨List.prefix_append start rest, by rw [List.drop_left]⟩

end Text

open Text (Unescaped)

section Signals

variable {text rest code : List Char} {c : Char}

/-- What a terminal takes from a text: a character to show, or an attribute to set, by the digits of
its code. -/
inductive Signal
  | char (c : Char)
  | sequence (code : List Char)
deriving DecidableEq

/-- The code of the sequence that a text starts with, if it does. -/
def attributeCode? : Text.Scan (List Char) := fun text => do
  let text ← Text.behind? ['\x1b', '['] text
  let rest ← Text.behind? ['m'] (text.dropWhile Char.isDigit)
  return (text.takeWhile Char.isDigit, rest)

/-- A text starts with a sequence exactly when it is the sequence of some digits and a rest. -/
theorem attributeCode?_eq_some_iff :
    attributeCode? text = some (code, rest) ↔
      text = attributeSequence code ++ rest ∧ code.all Char.isDigit = true := by
  have parts : attributeCode? text = some (code, rest) ↔
      ∃ digits, text = ['\x1b', '['] ++ digits ∧ digits.dropWhile Char.isDigit = ['m'] ++ rest ∧
        digits.takeWhile Char.isDigit = code := by
    simp only [attributeCode?, Option.bind_eq_bind, Option.bind_eq_some_iff,
      Text.behind?_eq_some_iff, Option.pure_def, Option.some.injEq, Prod.mk.injEq]
    constructor
    · rintro ⟨digits, opened, _, ended, same, rfl⟩
      exact ⟨digits, opened, ended, same⟩
    · rintro ⟨digits, opened, ended, same⟩
      exact ⟨digits, opened, rest, ended, same, rfl⟩
  rw [parts]
  constructor
  · rintro ⟨digits, rfl, ended, rfl⟩
    refine ⟨?_, List.all_takeWhile⟩
    have whole : digits = digits.takeWhile Char.isDigit ++ (['m'] ++ rest) := by
      rw [← ended, List.takeWhile_append_dropWhile]
    have letter : ['\x1b', '['] ++ (digits.takeWhile Char.isDigit ++ (['m'] ++ rest)) =
        attributeSequence (digits.takeWhile Char.isDigit) ++ rest := by
      simp [attributeSequence]
    rw [← letter, ← whole]
  · rintro ⟨rfl, digits⟩
    have letter : ¬ Char.isDigit 'm' = true := by decide
    rw [List.all_eq_true] at digits
    refine ⟨code ++ (['m'] ++ rest), by simp [attributeSequence], ?_, ?_⟩
    · rw [List.dropWhile_append_of_pos digits]
      exact List.dropWhile_cons_of_neg letter
    · rw [List.takeWhile_append_of_pos digits]
      simp [letter]

/-- Behind a sequence there is less text. -/
theorem attributeCode?_shorter (found : attributeCode? text = some (code, rest)) :
    rest.length < text.length := by
  rw [(attributeCode?_eq_some_iff.1 found).1, List.length_append]
  have full : 0 < (attributeSequence code).length := Nat.succ_pos _
  omega

/-- A text as a terminal takes it. -/
def signals : List Char → List Signal
  | [] => []
  | c :: others =>
    match _ : attributeCode? (c :: others) with
    | some (code, behind) => .sequence code :: signals behind
    | none => .char c :: signals others
termination_by text => text.length
decreasing_by
  · exact attributeCode?_shorter ‹_›
  · exact Nat.lt_succ_self _

/-- A sequence is taken as one signal, whatever follows. -/
theorem signals_sequence (digits : code.all Char.isDigit = true) (rest : List Char) :
    signals (attributeSequence code ++ rest) = .sequence code :: signals rest := by
  have found : attributeCode? (attributeSequence code ++ rest) = some (code, rest) :=
    attributeCode?_eq_some_iff.2 ⟨rfl, digits⟩
  have start : attributeSequence code ++ rest = '\x1b' :: ('[' :: code ++ ['m'] ++ rest) := rfl
  rw [start] at found ⊢
  rw [signals]
  split
  · rename_i given
    rw [found, Option.some.injEq, Prod.mk.injEq] at given
    rw [given.1, given.2]
  · rename_i none
    rw [found] at none
    contradiction

/-- A character that is no escape is shown, whatever follows. -/
theorem signals_cons (plain : c ≠ '\x1b') (rest : List Char) :
    signals (c :: rest) = .char c :: signals rest := by
  rw [signals]
  split
  · rename_i found
    have start := (attributeCode?_eq_some_iff.1 found).1
    exact absurd (List.cons.inj start).1 plain
  · rfl

/-- Text without an escape is shown, whatever follows. -/
theorem signals_text (plain : '\x1b' ∉ text) (rest : List Char) :
    signals (text ++ rest) = text.map .char ++ signals rest := by
  induction text with
  | nil => rfl
  | cons c others ih =>
    rw [List.mem_cons, not_or] at plain
    rw [List.cons_append, signals_cons (Ne.symm plain.1), ih plain.2]
    rfl

/-- Text without an escape is shown. -/
theorem signals_of_plain (plain : '\x1b' ∉ text) : signals text = text.map .char := by
  have nothing : signals [] = [] := by rw [signals]
  have whole := signals_text plain []
  rwa [List.append_nil, nothing, List.append_nil] at whole

/-- The character of a signal that shows one. -/
def Signal.char? : Signal → Option Char
  | char c => some c
  | sequence _ => none

end Signals

/-- A text without the sequences in it. -/
def withoutSequences (text : String) : String :=
  String.ofList ((signals text.toList).filterMap Signal.char?)

/-- The colour of a code, if it is that of one. -/
def Colour.ofCode? (code : List Char) : Option Colour :=
  [red, yellow, blue, cyan].find? (·.code = code)

/-- How a terminal shows characters. -/
@[ext]
structure Style where
  colour : Option Colour := none
  bold : Bool := false
deriving DecidableEq

/-- The style of text that is not styled. -/
def Style.plain : Style := {}

/-- The style after an attribute has been set: a colour or the default colour takes the place of
the colour before, bold is added, and without a code or with the code zero all styles end. -/
def Style.set (style : Style) (code : List Char) : Style :=
  match Colour.ofCode? code with
  | some colour => { style with colour := some colour }
  | none =>
    if code = ['3', '9'] then { style with colour := none }
    else if code = ['1'] then { style with bold := true }
    else if code = ['0'] ∨ code = [] then .plain
    else style

/-- What a terminal shows, starting in a style: the characters, each in its style. -/
def shown (style : Style) : List Signal → List (Char × Style)
  | [] => []
  | .char c :: rest => (c, style) :: shown style rest
  | .sequence code :: rest => shown (style.set code) rest

/-- The style that a terminal is left in. -/
def styleAfter (style : Style) : List Signal → Style
  | [] => style
  | .char _ :: rest => styleAfter style rest
  | .sequence code :: rest => styleAfter (style.set code) rest

section Shown

variable {style : Style} {front back : List Signal}

/-- What is shown of signals in a row: the later ones go on in the style that the first have
left. -/
theorem shown_append :
    shown style (front ++ back) = shown style front ++ shown (styleAfter style front) back := by
  induction front generalizing style with
  | nil => rfl
  | cons signal rest ih =>
    cases signal with
    | char c => rw [List.cons_append, shown, ih]; rfl
    | sequence code => rw [List.cons_append, shown, ih]; rfl

/-- Signals in a row leave the style that the last have left. -/
theorem styleAfter_append :
    styleAfter style (front ++ back) = styleAfter (styleAfter style front) back := by
  induction front generalizing style with
  | nil => rfl
  | cons signal rest ih =>
    cases signal with
    | char c => rw [List.cons_append, styleAfter, ih]; rfl
    | sequence code => rw [List.cons_append, styleAfter, ih]; rfl

/-- Text is shown in the style that the terminal is in. -/
theorem shown_text (text : List Char) : shown style (text.map .char) = text.map (·, style) := by
  induction text with
  | nil => rfl
  | cons c others ih => rw [List.map_cons, shown, ih]; rfl

/-- Text leaves the style as it is. -/
theorem styleAfter_text (text : List Char) : styleAfter style (text.map .char) = style := by
  induction text with
  | nil => rfl
  | cons c others ih => rw [List.map_cons, styleAfter, ih]

/-- Without their styles the characters that are shown are those of the signals. -/
theorem map_fst_shown (style : Style) (signals : List Signal) :
    (shown style signals).map Prod.fst = signals.filterMap Signal.char? := by
  induction signals generalizing style with
  | nil => rfl
  | cons signal rest ih =>
    cases signal with
    | char c => rw [shown, List.map_cons, ih]; rfl
    | sequence code => rw [shown, ih]; rfl

end Shown

/-- Text in which every span that is opened is closed again: text without an escape, spans of a
colour or of bold around such text, and such texts in a row. -/
inductive SpansClosed : List Char → Prop
  | text {text : List Char} (plain : '\x1b' ∉ text) : SpansClosed text
  | coloured (colour : Colour) {text : List Char} (inside : SpansClosed text) :
      SpansClosed (attributeSequence colour.code ++ text ++ attributeSequence ['3', '9'])
  | bold {text : List Char} (inside : SpansClosed text) :
      SpansClosed (attributeSequence ['1'] ++ text ++ attributeSequence ['0'])
  | append {front back : List Char} (first : SpansClosed front) (second : SpansClosed back) :
      SpansClosed (front ++ back)

/-- The code of a colour is made of digits. -/
theorem Colour.code_digits (colour : Colour) : colour.code.all Char.isDigit = true := by
  cases colour <;> decide

section Span

variable {text opening closing : List Char} (opens : opening.all Char.isDigit = true)
  (closes : closing.all Char.isDigit = true)
  (alone : ∀ rest, signals (text ++ rest) = signals text ++ signals rest)

include opens closes alone

/-- The sequences around a text are taken as two signals when the text is taken by itself. -/
theorem signals_span (rest : List Char) :
    signals (attributeSequence opening ++ text ++ attributeSequence closing ++ rest) =
      .sequence opening :: (signals text ++ .sequence closing :: signals rest) := by
  rw [List.append_assoc, List.append_assoc, signals_sequence opens, alone,
    signals_sequence closes]

/-- A span by itself. -/
theorem signals_span_alone :
    signals (attributeSequence opening ++ text ++ attributeSequence closing) =
      .sequence opening :: (signals text ++ [.sequence closing]) := by
  have nothing : signals [] = [] := by rw [signals]
  have whole := signals_span opens closes alone []
  rwa [List.append_nil, nothing] at whole

/-- A span is taken by itself like the text in it. -/
theorem signals_span_append (rest : List Char) :
    signals (attributeSequence opening ++ text ++ attributeSequence closing ++ rest) =
      signals (attributeSequence opening ++ text ++ attributeSequence closing) ++
        signals rest := by
  rw [signals_span opens closes alone, signals_span_alone opens closes alone, List.cons_append,
    List.append_assoc, List.singleton_append]

/-- What a span shows is its text in the style that is set. -/
theorem shown_span (style : Style) :
    shown style (signals (attributeSequence opening ++ text ++ attributeSequence closing)) =
      shown (style.set opening) (signals text) := by
  rw [signals_span_alone opens closes alone, shown, shown_append, shown, shown, List.append_nil]

/-- A span leaves the style that its text has left, changed by the sequence that closes it. -/
theorem styleAfter_span (style : Style) :
    styleAfter style (signals (attributeSequence opening ++ text ++ attributeSequence closing)) =
      (styleAfter (style.set opening) (signals text)).set closing := by
  rw [signals_span_alone opens closes alone, styleAfter, styleAfter_append, styleAfter,
    styleAfter]

end Span

section Closed

variable {text : List Char}

/-- Text in which all spans are closed is taken by itself, whatever follows. -/
theorem SpansClosed.signals_append (closed : SpansClosed text) (rest : List Char) :
    signals (text ++ rest) = signals text ++ signals rest := by
  induction closed generalizing rest with
  | text plain => rw [signals_text plain, signals_of_plain plain]
  | coloured colour inside ih => exact signals_span_append colour.code_digits (by decide) ih rest
  | bold inside ih => exact signals_span_append (by decide) (by decide) ih rest
  | append first second ih ih' => rw [List.append_assoc, ih, ih', ih, List.append_assoc]

/-- A style that another has come to by closing spans: there is no colour or bold that the other
lacks. -/
structure Style.Within (inner outer : Style) : Prop where
  colour : inner.colour = outer.colour ∨ inner.colour = none
  bold : inner.bold = outer.bold ∨ inner.bold = false

/-- Setting the code of a colour sets the colour. -/
theorem Style.set_colour (style : Style) (colour : Colour) :
    style.set colour.code = { style with colour := some colour } := by
  cases colour <;> rfl

/-- Closed spans leave no style behind that was not there before. -/
theorem SpansClosed.within (closed : SpansClosed text) (style : Style) :
    (styleAfter style (signals text)).Within style := by
  induction closed generalizing style with
  | text plain =>
    rw [signals_of_plain plain, styleAfter_text]
    exact ⟨.inl rfl, .inl rfl⟩
  | coloured colour inside ih =>
    have kept := ih { style with colour := some colour }
    rw [styleAfter_span colour.code_digits (by decide) inside.signals_append, Style.set_colour]
    exact ⟨.inr rfl, kept.bold⟩
  | bold inside ih =>
    -- The sequence that closes bold ends the colour as well.
    rw [styleAfter_span (by decide) (by decide) inside.signals_append]
    exact ⟨.inr rfl, .inr rfl⟩
  | @append front back first second ih ih' =>
    have before := ih style
    have behind := ih' (styleAfter style (signals front))
    rw [first.signals_append, styleAfter_append]
    constructor
    · rcases behind.colour with same | none
      · rw [same]
        exact before.colour
      · exact .inr none
    · rcases behind.bold with same | none
      · rw [same]
        exact before.bold
      · exact .inr none

/-- A terminal that shows plain text does so again after closed spans. -/
theorem SpansClosed.styleAfter_plain (closed : SpansClosed text) :
    styleAfter .plain (signals text) = .plain := by
  have left := closed.within .plain
  have colour : (styleAfter .plain (signals text)).colour = none := left.colour.elim id id
  have bold : (styleAfter .plain (signals text)).bold = false := left.bold.elim id id
  exact Style.ext colour bold

end Closed

/-- A text in one style. -/
def inStyle (style : Style) (text : String) : List (Char × Style) :=
  text.toList.map (·, style)

namespace Piece

variable {piece : Piece}

/-- The style of a piece. -/
def style (piece : Piece) : Style := ⟨piece.colour, piece.bold⟩

/-- The colour of a piece is a closed span. -/
theorem spansClosed_coloured (plain : Unescaped piece.text) : SpansClosed piece.coloured := by
  unfold coloured
  cases piece.colour with
  | none => exact .text plain
  | some colour => exact .coloured colour (.text plain)

/-- The style of a piece is closed spans. -/
theorem spansClosed_styled (plain : Unescaped piece.text) : SpansClosed piece.styled := by
  unfold styled
  split
  · exact .bold (spansClosed_coloured plain)
  · exact spansClosed_coloured plain

/-- The text of a piece is shown in its colour, or in the colour that was there before. -/
theorem shown_coloured (plain : Unescaped piece.text) (style : Style) :
    shown style (signals piece.coloured) =
      inStyle { style with colour := piece.colour.or style.colour } piece.text := by
  have text : SpansClosed piece.text.toList := .text plain
  unfold coloured
  cases piece.colour with
  | none => rw [signals_of_plain plain, shown_text, Option.none_or, inStyle]
  | some colour =>
    rw [shown_span colour.code_digits (by decide) text.signals_append, signals_of_plain plain,
      shown_text, Style.set_colour, Option.some_or, inStyle]

/-- The text of a piece is shown in its style. -/
theorem shown_styled (plain : Unescaped piece.text) :
    shown .plain (signals piece.styled) = inStyle piece.style piece.text := by
  have coloured := spansClosed_coloured plain
  unfold styled
  split
  · rename_i bold
    have set : Style.set .plain ['1'] = ⟨none, true⟩ := by decide
    rw [shown_span (by decide) (by decide) coloured.signals_append, shown_coloured plain, set,
      Option.or_none, style, bold]
  · rename_i light
    rw [shown_coloured plain, Style.plain, Option.or_none, style, Bool.eq_false_iff.2 light]

end Piece

namespace StyledLine

variable {line : StyledLine}

/-- All spans of a line are closed before the line ends. -/
theorem spansClosed_chars (plain : ∀ piece ∈ line, Unescaped piece.text) :
    SpansClosed (line.chars true) := by
  induction line with
  | nil => exact .text List.not_mem_nil
  | cons piece line ih =>
    rw [List.forall_mem_cons] at plain
    exact .append (Piece.spansClosed_styled plain.1) (ih plain.2)

/-- The pieces of a line are shown in their styles. -/
theorem shown_chars (plain : ∀ piece ∈ line, Unescaped piece.text) :
    shown .plain (signals (line.chars true)) =
      line.flatMap fun piece => inStyle piece.style piece.text := by
  induction line with
  | nil => rw [chars, List.flatMap_nil, List.flatMap_nil, signals, shown]
  | cons piece line ih =>
    rw [List.forall_mem_cons] at plain
    have closed := Piece.spansClosed_styled plain.1
    have split : chars (piece :: line) true = piece.styled ++ chars line true := rfl
    rw [split, closed.signals_append, shown_append, closed.styleAfter_plain, ih plain.2,
      Piece.shown_styled plain.1, List.flatMap_cons]

/-- A line in style without its sequences is the line without style. -/
theorem withoutSequences_render (plain : ∀ piece ∈ line, Unescaped piece.text) :
    withoutSequences (line.render true) = line.render false := by
  have characters : (signals (line.chars true)).filterMap Signal.char? = line.chars false := by
    rw [← map_fst_shown .plain, shown_chars plain, List.map_flatMap, chars]
    congr 1
    funext piece
    simp [inStyle, Function.comp_def]
  rw [withoutSequences, render, String.toList_ofList, characters, render]

end StyledLine

/-- The texts in the line of a violation have no escape when the violation has none. -/
theorem Violation.unescaped_pieces {violation : Violation} (file : Unescaped violation.file)
    (rule : Unescaped violation.rule) (reporter : Unescaped violation.reporter)
    (message : Unescaped violation.message) :
    ∀ piece ∈ violation.line, Unescaped piece.text := by
  have space : Unescaped " " := by decide
  have icon : Unescaped violation.severity.icon := by cases violation.severity <;> decide
  have word : Unescaped (tag violation.severity.word) := by
    cases violation.severity <;> decide
  have headline : Unescaped (Text.headline violation.message) :=
    fun inside => message ((Text.headline_starts violation.message).subset inside)
  have location : Unescaped violation.location := by
    have colon : Unescaped ":" := by decide
    unfold Violation.location
    split
    · exact file
    · simp only [Text.unescaped_append]
      exact ⟨⟨file, colon⟩, Text.unescaped_natural _⟩
  have rest : Unescaped (" ❲" ++ violation.rule ++ "❳ " ++ violation.reporter ++ " — " ++
      Text.headline violation.message) := by
    have opening : Unescaped " ❲" := by decide
    have closing : Unescaped "❳ " := by decide
    have dash : Unescaped " — " := by decide
    simp only [Text.unescaped_append]
    exact ⟨⟨⟨⟨⟨opening, rule⟩, closing⟩, reporter⟩, dash⟩, headline⟩
  simp only [line, Piece.plain, List.forall_mem_cons]
  exact ⟨icon, space, word, space, location, rest, by simp⟩

/-- When the file, the rule, the reporter and the message of a violation have no escape, its line in
style without the sequences is its line without style. All spans of the line in style are closed
before the line ends, and a terminal is left as it was. It shows the icon in the colour of the
severity, the tag in that colour and in bold, and the location in bold; the rule, the reporter and
the first line of the message it shows plain. -/
theorem Violation.line_in_style {violation : Violation} (file : Unescaped violation.file)
    (rule : Unescaped violation.rule) (reporter : Unescaped violation.reporter)
    (message : Unescaped violation.message) :
    withoutSequences (violation.line.render true) = violation.line.render false ∧
    SpansClosed (violation.line.render true).toList ∧
    styleAfter .plain (signals (violation.line.render true).toList) = .plain ∧
    shown .plain (signals (violation.line.render true).toList) =
      inStyle ⟨some violation.severity.colour, false⟩ violation.severity.icon ++
      inStyle .plain " " ++
      inStyle ⟨some violation.severity.colour, true⟩ (tag violation.severity.word) ++
      inStyle .plain " " ++
      inStyle ⟨none, true⟩ violation.location ++
      inStyle .plain (" ❲" ++ violation.rule ++ "❳ " ++ violation.reporter ++ " — " ++
        Text.headline violation.message) := by
  have plain : ∀ piece ∈ violation.line, Unescaped piece.text :=
    violation.unescaped_pieces file rule reporter message
  have chars : (violation.line.render true).toList = violation.line.chars true :=
    String.toList_ofList
  have closed : SpansClosed (violation.line.chars true) := StyledLine.spansClosed_chars plain
  rw [chars]
  refine ⟨StyledLine.withoutSequences_render plain, closed, closed.styleAfter_plain, ?shown⟩
  case shown =>
    rw [StyledLine.shown_chars plain]
    simp only [line, List.flatMap_cons, List.flatMap_nil, List.append_assoc, List.append_nil]
    rfl

/-- A violation whose texts look like parts of sequences. -/
def disguisedViolation : Violation where
  file := "[31m"
  startLine := 7
  rule := "[1;"
  message := "[0m39m\r\n[1m"
  severity := .warn
  reporter := "1m["
  specifics := .empty

/-- Texts that look like parts of sequences are shown like any other. -/
theorem Violation.line_in_style_disguised :
    withoutSequences (disguisedViolation.line.render true) =
      "▲ ⟦warn⟧ [31m:7 ❲[1;❳ 1m[ — [0m39m" ∧
    SpansClosed (disguisedViolation.line.render true).toList ∧
    shown .plain (signals (disguisedViolation.line.render true).toList) =
      inStyle ⟨some .yellow, false⟩ "▲" ++ inStyle .plain " " ++
      inStyle ⟨some .yellow, true⟩ "⟦warn⟧" ++ inStyle .plain " " ++
      inStyle ⟨none, true⟩ "[31m:7" ++ inStyle .plain " ❲[1;❳ 1m[ — [0m39m" := by
  obtain ⟨agrees, closed, _, styles⟩ := @line_in_style disguisedViolation
    (by decide) (by decide) (by decide) (by decide)
  have line : disguisedViolation.line.render false = "▲ ⟦warn⟧ [31m:7 ❲[1;❳ 1m[ — [0m39m" := by
    decide +kernel
  rw [line] at agrees
  exact ⟨agrees, closed, styles⟩

end SarifDigest
