/-
# A conversation keeps its pattern working

| line | pattern, purpose and offsets afterwards | last error afterwards |
| --- | --- | --- |
| a pattern that compiles | the new pattern | none |
| a pattern that does not | as before | its error |
| a subject for a pattern | as before | none |
| cleared | those of a new conversation | none |
| any other | pattern as before | as before |

So the pattern of a conversation compiles, whatever the lines before (`Sound.after`).  No
operation on a subject has its arguments refused, hence each of them gives a value, which is
printed on one line of JSON (`Sound.runSubject_of_pattern`).
-/

import PatternKit.Console.Conversation
import PatternKit.Proofs.Json.Printer
import PatternKit.Proofs.Session.LastError

namespace PatternKit
namespace Console

/-- The JSON text of a value on one line of output, and nothing on the error output. -/
def Printed.IsLineOf (printed : Printed) (v : Json) : Prop :=
  printed.output = v.compact ++ ['\n'] ∧ '\n' ∉ v.compact ∧ printed.errors = []

namespace Conversation

/-- The conversation that lines leave. -/
def after (c : Conversation) (lines : List Text) : Conversation :=
  lines.foldl (fun c line => (c.takeLine line).2.2) c

/-- What every line keeps: the session is valid, and the pattern compiles if there is one. -/
structure Sound (c : Conversation) : Prop where
  valid : c.session.Valid
  compiles : ∀ literal, c.pattern = some literal → ∃ p, Pattern.compile literal = .ok p

variable {c : Conversation} {literal : Text}

theorem sound_new : Sound {} where
  valid := Session.valid_new defaultCapacity
  compiles := by
    intro literal h
    cases h

/-! ## Subjects -/

/-- **What is done with a subject** is an operation with the pattern as its only literal, whose
arguments fit. -/
theorem exists_operation (c : Conversation) (literal subject : Text) :
    ∃ (α : Type) (op : Operation α) (toJson : α → Json), op.literals = [literal] ∧
      op.fault? = none ∧
      ∀ s, c.operation literal subject s = ((op.run s).1.map toJson, (op.run s).2) := by
  unfold operation
  cases c.purpose with
  | find =>
    exact ⟨_, .matchAll literal subject { setOrder := true, offsetCapture := c.offsetCapture } 0,
      Grouped.toJson, rfl, rfl, fun s => rfl⟩
  | replace t =>
    exact ⟨_, .replace (.one literal) (.one t) (.one subject) (-1), Replaced.toJson, rfl, rfl,
      fun s => rfl⟩
  | split =>
    exact ⟨_, .split literal subject (-1) { offsetCapture := c.offsetCapture }, Piece.listToJson,
      rfl, rfl, fun s => rfl⟩

/-- **A pattern that compiles** gives every subject a value, and leaves no error. -/
theorem operation_of_compile {s : Session} (hs : s.Valid) {p : Pattern}
    (hp : Pattern.compile literal = .ok p) (c : Conversation) (subject : Text) :
    ∃ v s', c.operation literal subject s = (.ok v, s') ∧ s'.Valid ∧ s'.lastError = .none := by
  obtain ⟨α, op, toJson, hliterals, hfault, hop⟩ := c.exists_operation literal subject
  have hvalid := Operation.valid_run hs op
  have hcompile : (Session.compileAll op.literals s).1 = .ok [p] := by
    rw [hliterals, Session.compileAll_singleton, Session.compile_fst hs, hp]
    rfl
  rcases op.run_cases s with ⟨f, hrefused, _⟩ | ⟨e, _, hfailed, _⟩ | ⟨ps, a, _, _, hrun⟩
  · rw [hfault] at hrefused
    cases hrefused
  · rw [hcompile] at hfailed
    cases hfailed
  · have hvalue : (op.run s).1 = .ok a := congrArg Prod.fst hrun
    have hne : op.literals ≠ [] := by simp [hliterals]
    refine ⟨toJson a, (op.run s).2, ?_, hvalid, Session.lastError_of_run_ok hs hvalue hne⟩
    rw [hop, hvalue]
    rfl

/-- The value does not depend on the session. -/
theorem operation_fst {s s' : Session} (hs : s.Valid) (hs' : s'.Valid) (c : Conversation)
    (literal subject : Text) :
    (c.operation literal subject s).1 = (c.operation literal subject s').1 := by
  obtain ⟨α, op, toJson, -, -, hop⟩ := c.exists_operation literal subject
  rw [hop, hop, Operation.run_fst hs, Operation.run_fst hs']

/-- **A subject for the pattern** prints a value.  Of the conversation only the session changes,
and it has no error. -/
theorem Sound.runSubject_of_pattern (hc : c.Sound) (hpattern : c.pattern = some literal)
    (subject : Text) :
    ∃ v s, (c.operation literal subject c.session).1 = .ok v ∧ s.Valid ∧ s.lastError = .none ∧
      c.runSubject subject = (outputLine v.compact, { c with session := s }) := by
  obtain ⟨p, hp⟩ := hc.compiles literal hpattern
  obtain ⟨v, s, hop, hs, hlast⟩ := operation_of_compile hc.valid hp c subject
  refine ⟨v, s, congrArg Prod.fst hop, hs, hlast, ?_⟩
  unfold runSubject
  simp only [hpattern, hop]

theorem Sound.runSubject (hc : c.Sound) (subject : Text) : (c.runSubject subject).2.Sound := by
  cases hpattern : c.pattern with
  | none =>
    have hrun : (c.runSubject subject).2 = c := by
      unfold Conversation.runSubject
      simp only [hpattern]
    rw [hrun]
    exact hc
  | some literal =>
    obtain ⟨v, s, -, hs, -, hrun⟩ := hc.runSubject_of_pattern hpattern subject
    rw [hrun]
    exact ⟨hs, hc.compiles⟩

/-! ## Commands -/

/-- A literal that does not compile leaves its error and nothing else. -/
theorem setPattern_of_error (hc : c.Sound) {e : Error} (he : Pattern.compile literal = .error e) :
    c.setPattern literal = (reportError e, { c with session := c.session.fail e }) := by
  unfold setPattern
  rw [Session.compile_of_error hc.valid he]

theorem Sound.setPattern (hc : c.Sound) (literal : Text) : (c.setPattern literal).2.Sound := by
  cases hp : Pattern.compile literal with
  | ok p =>
    unfold Conversation.setPattern
    rw [Session.compile_of_ok hc.valid hp]
    refine ⟨hc.valid.remember hp, fun l hl => ?_⟩
    obtain rfl : literal = l := Option.some.inj hl
    exact ⟨p, hp⟩
  | error e =>
    rw [setPattern_of_error hc hp]
    exact ⟨hc.valid.fail e, hc.compiles⟩

/-- **Every command keeps the conversation sound.** -/
theorem Sound.obey (hc : c.Sound) (d : Directive) : (c.obey d).2.Sound := by
  cases d with
  | pattern literal => exact hc.setPattern literal
  | clear => exact sound_new
  | matchSubjects | replaceSubjects | splitSubjects | toggleOffsets => exact ⟨hc.valid, hc.compiles⟩
  | showError | help | exit | unknown => exact hc

/-! ## Lines -/

/-- **How a line is taken**: it changes nothing, is obeyed as a command, or is run as a
subject. -/
theorem takeLine_cases (line : Text) (c : Conversation) :
    (c.takeLine line = (.blank, {}, c) ∨ c.takeLine line = (.exit, {}, c)) ∨
      (∃ d, c.takeLine line = (.command, c.obey d)) ∨
      c.takeLine line = (.subject, c.runSubject line) := by
  unfold takeLine
  dsimp only
  split_ifs
  · exact .inl (.inl rfl)
  · split
    · exact .inl (.inr rfl)
    · exact .inr (.inl ⟨_, rfl⟩)
    · exact .inr (.inr rfl)

/-- A line that sets the pattern. -/
theorem takeLine_of_pattern {line : Text}
    (h : Directive.read? (Text.trim line) = some (.pattern literal)) (c : Conversation) :
    c.takeLine line = (.command, c.setPattern literal) := by
  have hne : Text.trim line ≠ [] := by
    intro hnil
    rw [hnil] at h
    cases h
  unfold takeLine
  simp only [if_neg hne, h]
  rfl

/-- **Every line keeps the conversation sound.** -/
theorem Sound.takeLine (hc : c.Sound) (line : Text) : (c.takeLine line).2.2.Sound := by
  rcases takeLine_cases line c with (h | h) | ⟨d, h⟩ | h
  · rwa [h]
  · rwa [h]
  · rw [h]
    exact hc.obey d
  · rw [h]
    exact hc.runSubject line

/-- **After any lines** the conversation is sound. -/
theorem Sound.after (hc : c.Sound) (lines : List Text) : (c.after lines).Sound := by
  induction lines generalizing c with
  | nil => exact hc
  | cons line lines ih => exact ih (hc.takeLine line)

/-- **A conversation never holds a broken pattern.**  After any lines:

1. The pattern compiles, if there is one.
2. Whatever is done with subjects, with offsets or without, any subject for it prints on one line
   of JSON what a new session returns for it, and nothing else, and leaves no error; nothing
   changes but the session.  A line that is taken as a subject is run as it is.
3. A line that sets a pattern which does not compile leaves its error as the last one, and the
   pattern, what is done with subjects and the offsets as they were. -/
theorem pattern_never_broken (lines : List Text) :
    let c := after {} lines
    (∀ literal, c.pattern = some literal → ∃ p, Pattern.compile literal = .ok p) ∧
    (∀ literal purpose offsets subject, c.pattern = some literal →
      let c' := { c with purpose := purpose, offsetCapture := offsets }
      let r := c'.runSubject subject
      ∃ v, (c'.operation literal subject (Session.new 0)).1 = .ok v ∧ r.1.IsLineOf v ∧
        r.2.session.lastError.code = .noError ∧ r.2 = { c' with session := r.2.session }) ∧
    (∀ line, (c.takeLine line).1 = .subject → (c.takeLine line).2 = c.runSubject line) ∧
    ∀ line literal e, Directive.read? (Text.trim line) = some (.pattern literal) →
      Pattern.compile literal = .error e →
      let c' := (c.takeLine line).2.2
      c'.session.lastError = ⟨.internal, e.message⟩ ∧ c'.pattern = c.pattern ∧
        c'.purpose = c.purpose ∧ c'.offsetCapture = c.offsetCapture := by
  intro c
  have hc : c.Sound := sound_new.after lines
  refine ⟨hc.compiles, ?_, ?_, ?_⟩
  · intro literal purpose offsets subject hpattern c' r
    have hc' : c'.Sound := ⟨hc.valid, hc.compiles⟩
    obtain ⟨v, s, hvalue, -, hlast, hrun⟩ := hc'.runSubject_of_pattern hpattern subject
    have hr : r = (outputLine v.compact, { c' with session := s }) := hrun
    rw [operation_fst hc'.valid (Session.valid_new 0)] at hvalue
    rw [hr, hlast]
    exact ⟨v, hvalue, ⟨rfl, v.newline_notMem_compact, rfl⟩, rfl, rfl⟩
  · intro line hsubject
    rcases takeLine_cases line c with (h | h) | ⟨d, h⟩ | h
    · rw [h] at hsubject
      cases hsubject
    · rw [h] at hsubject
      cases hsubject
    · rw [h] at hsubject
      cases hsubject
    · rw [h]
  · intro line literal e hline he c'
    have hfailed : c' = { c with session := c.session.fail e } := by
      show (c.takeLine line).2.2 = _
      rw [takeLine_of_pattern hline, setPattern_of_error hc he]
    rw [hfailed]
    exact ⟨rfl, rfl, rfl, rfl⟩

/-- A pattern that fails is not kept, and the next subject is run with the one before it. -/
example : ((after {} [".pattern /b/".toList, ".flags".toList, ".pattern /(/".toList]).takeLine
    "éb".toList).2.1 = outputLine "[\x7b\"0\":[\"b\",2]\x7d]".toList := by decide +kernel

end Conversation
end Console
end PatternKit
