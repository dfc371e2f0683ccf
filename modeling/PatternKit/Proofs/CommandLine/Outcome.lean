/-
# Whether anything matched

A command on a pattern completes exactly if the texts that it works on can be read and the pattern
compiles, and the outcome then answers one question (`command_answers`):

| command | found |
| --- | --- |
| `match`, `match-all` | if there is an occurrence in the subject from the offset on |
| `grep` | if there is an occurrence in an entry, without `--invert` |
| `replace`, `split` | always |

The first two rows say whether anything matched.  The last one does not: a text without any
occurrence is replaced by itself and split into one piece, and the outcome is as if something had
been found (`rewriting_found_nothing`).
-/

import PatternKit.CommandLine.Run
import PatternKit.Proofs.Match.Agreement

namespace PatternKit

namespace Pattern

variable {p : Pattern} {t : Text} {offset : Int}

/-- The pattern has an occurrence in a text from an offset on. -/
def OccursFrom (p : Pattern) (t : Text) (offset : Int) : Prop := (p.finds t offset).2 ≠ []

theorem rows_ne_nil_iff (flags : MatchFlags) :
    p.rows t flags offset ≠ [] ↔ p.OccursFrom t offset := by
  unfold OccursFrom
  rw [p.rows_eq, ne_eq, List.map_eq_nil_iff]

/-- **One match** is there if there is an occurrence. -/
theorem isSome_matchFirst_iff (flags : MatchFlags) :
    (p.matchFirst t flags offset).isSome = true ↔ p.OccursFrom t offset := by
  rw [matchFirst_eq_head?_rows, List.isSome_head?, rows_ne_nil_iff]

/-- **A global match** counts any if there is an occurrence. -/
theorem count_matchEvery_pos_iff (flags : MatchFlags) :
    0 < (p.matchEvery t flags offset).count ↔ p.OccursFrom t offset := by
  rw [count_matchEvery, List.length_pos_iff, rows_ne_nil_iff]

/-- A text matches if there is an occurrence in the whole of it. -/
theorem isMatch_iff_occursFrom : p.matcher.isMatch t = true ↔ p.OccursFrom t 0 := by
  unfold OccursFrom
  rw [Matcher.isMatch_iff, finds_zero, List.length_pos_iff]

/-- **A filter** keeps any entry if there is an occurrence in one. -/
theorem grep_ne_nil_iff {entries : List Text} {flags : GrepFlags} (h : flags.invert = false) :
    p.grep id entries flags ≠ [] ↔ ∃ t ∈ entries, p.OccursFrom t 0 := by
  simp only [← isMatch_iff_occursFrom]
  constructor
  · intro hkept
    obtain ⟨⟨i, t⟩, hmem⟩ := List.exists_mem_of_ne_nil _ hkept
    obtain ⟨hentry, hmatch⟩ := (p.mem_grep_iff id entries flags i t).1 hmem
    exact ⟨t, List.mem_of_getElem? hentry, by simpa [h] using hmatch⟩
  · rintro ⟨t, ht, hmatch⟩
    obtain ⟨i, hentry⟩ := List.mem_iff_getElem?.1 ht
    have hkept : (i, t) ∈ p.grep id entries flags :=
      (p.mem_grep_iff id entries flags i t).2 ⟨hentry, by simp [h, hmatch]⟩
    exact List.ne_nil_of_mem hkept

end Pattern

namespace CommandLine

/-! ## What a command asks -/

namespace Command

/-- The literal of the pattern that a command looks for; quoting looks for none. -/
def literal? : Command → Option Text
  | matchFirst literal _ _ _ | matchEvery literal _ _ _ | replace literal _ _ _
  | split literal _ _ _ | grep literal _ _ => some literal
  | quote _ _ => none

/-- The texts that a command looks through: its subjects or entries, among the arguments or else
from standard input. -/
def texts (input : Option Text) : Command → Except Failure (List Text)
  | matchFirst _ subject _ _ | matchEvery _ subject _ _ | split _ subject _ _ =>
    (subjectText input subject).map fun t => [t]
  | replace _ _ subjects _ => (subjectsOf input subjects).map OneOrMany.toList
  | grep _ entries _ => if entries = [] then (inputText input).map Text.lines else .ok entries
  | quote _ _ => .ok []

/-- The offset from which on a command looks. -/
def offset : Command → Int
  | matchFirst _ _ _ offset | matchEvery _ _ _ offset => offset
  | _ => 0

/-- Whether a command makes a new text or pieces of its subjects. -/
def rewrites : Command → Bool
  | replace _ _ _ _ | split _ _ _ _ => true
  | _ => false

/-- Whether a command keeps what does not match. -/
def inverts : Command → Bool
  | grep _ _ flags => flags.invert
  | _ => false

/-- Whether a command asks for rows and for columns. -/
def asksBothOrders : Command → Prop
  | matchEvery _ _ flags _ => flags.patternOrder ∧ flags.setOrder
  | _ => False

end Command

/-! ## How a command completes -/

/-- The value of an operation on a new session is its outcome. -/
theorem evaluate_eq_ok_iff {α : Type} {op : Operation α} {a : α} :
    evaluate op.run = .ok a ↔ op.outcome = .ok a := by
  unfold evaluate
  rw [Operation.run_fst (Session.valid_new defaultCapacity)]
  cases op.outcome <;> simp

theorem map_eq_ok_iff {ε α β : Type} {x : Except ε α} {f : α → β} {b : β} :
    x.map f = .ok b ↔ ∃ a, x = .ok a ∧ f a = b := by
  cases x <;> simp [Except.map]

/-- **What an operation on one pattern completes with**, once the texts have been read that it
works on. -/
theorem steps_eq_ok_iff {α β : Type} {literal : Text} {texts : Except Failure β}
    (op : β → Operation α) (value : β → Pattern → α)
    (hop : ∀ t, (op t).outcome = (Pattern.compile literal).map (value t)) (finish : α → Completed)
    {done : Completed} :
    (do let t ← texts; let a ← evaluate (op t).run; return finish a) = .ok done ↔
      ∃ p t, Pattern.compile literal = .ok p ∧ texts = .ok t ∧ finish (value t p) = done := by
  cases texts with
  | error f => simp [bind, Except.bind]
  | ok t =>
    have hvalue (a : α) : evaluate (op t).run = .ok a ↔
        (Pattern.compile literal).map (value t) = .ok a := evaluate_eq_ok_iff.trans (by rw [hop])
    cases hp : Pattern.compile literal with
    | error e =>
      cases h : evaluate (op t).run <;> simp_all [bind, Except.bind, Except.map]
    | ok p =>
      rw [hp] at hvalue
      simp [bind, Except.bind, pure, Except.pure, (hvalue (value t p)).2 rfl]

section Verbs

variable {input : Option Text} {compact : Bool} {literal : Text} {done : Completed}

theorem run_matchFirst_eq_ok_iff {subject : Option Text} {flags : MatchFlags} {offset : Int} :
    Command.run input compact (.matchFirst literal subject flags offset) = .ok done ↔
      ∃ p t, Pattern.compile literal = .ok p ∧ subjectText input subject = .ok t ∧
        (⟨jsonOutput compact (Row.optionToJson (p.matchFirst t flags offset)),
          .ofBool (p.matchFirst t flags offset).isSome⟩ : Completed) = done :=
  steps_eq_ok_iff (fun t => .matchOne literal t flags offset) _ (fun _ => rfl) _

theorem run_split_eq_ok_iff {subject : Option Text} {limit : Int} {flags : SplitFlags} :
    Command.run input compact (.split literal subject limit flags) = .ok done ↔
      ∃ p t, Pattern.compile literal = .ok p ∧ subjectText input subject = .ok t ∧
        (⟨jsonOutput compact (Piece.listToJson (p.split t limit flags)), .found⟩ : Completed) =
          done :=
  steps_eq_ok_iff (fun t => .split literal t limit flags) _ (fun _ => rfl) _

theorem run_replace_eq_ok_iff {replacement : Text} {subjects : List Text} {limit : Int} :
    Command.run input compact (.replace literal replacement subjects limit) = .ok done ↔
      ∃ p ts, Pattern.compile literal = .ok p ∧ subjectsOf input subjects = .ok ts ∧
        (⟨jsonOutput compact (runTemplates [(p, Template.parse replacement)] ts limit).toJson,
          .found⟩ : Completed) = done := by
  refine steps_eq_ok_iff (fun ts => .replace (.one literal) (.one replacement) ts limit)
    (fun ts p => runTemplates [(p, Template.parse replacement)] ts limit) (fun ts => ?_) _
  show ([literal].mapM Pattern.compile).map _ = _
  rw [List.mapM_cons]
  cases Pattern.compile literal <;> rfl

theorem run_grep_eq_ok_iff {entries : List Text} {flags : GrepFlags} :
    Command.run input compact (.grep literal entries flags) = .ok done ↔
      ∃ p ts, Pattern.compile literal = .ok p ∧
        (if entries = [] then (inputText input).map Text.lines else .ok entries) = .ok ts ∧
        (⟨jsonOutput compact (Json.ofEntries (p.grep id ts flags)),
          .ofBool !(p.grep id ts flags).isEmpty⟩ : Completed) = done := by
  rw [← steps_eq_ok_iff (fun ts => .grep literal id ts flags) (fun ts p => p.grep id ts flags)
    (fun _ => rfl) fun kept =>
      (⟨jsonOutput compact (Json.ofEntries kept), .ofBool !kept.isEmpty⟩ : Completed)]
  by_cases hentries : entries = []
  · subst hentries
    rfl
  · unfold Command.run
    simp only [if_neg hentries]
    rfl

theorem run_matchEvery_eq_ok_iff {subject : Option Text} {flags : MatchFlags} {offset : Int} :
    Command.run input compact (.matchEvery literal subject flags offset) = .ok done ↔
      ¬ (flags.patternOrder ∧ flags.setOrder) ∧
      ∃ p t, Pattern.compile literal = .ok p ∧ subjectText input subject = .ok t ∧
        (⟨jsonOutput compact (p.matchEvery t flags offset).toJson,
          .ofBool (0 < (p.matchEvery t flags offset).count)⟩ : Completed) = done := by
  by_cases hboth : flags.patternOrder ∧ flags.setOrder
  · have hrefused (t : Text) : evaluate (Session.matchAll literal t flags offset) =
        .error (.library (.argument .bothOrders)) := by
      unfold evaluate Session.matchAll
      rw [if_pos hboth]
    refine iff_of_false (fun h => ?_) fun h => h.1 hboth
    unfold Command.run at h
    cases ht : subjectText input subject <;> simp [bind, Except.bind, ht, hrefused] at h
  · rw [and_iff_right hboth]
    exact steps_eq_ok_iff (fun t => .matchAll literal t flags offset)
      (fun t p => p.matchEvery t flags offset) (fun t => if_neg hboth)
      fun found => ⟨jsonOutput compact found.toJson, .ofBool (0 < found.count)⟩

end Verbs

/-! ## Whether anything was found -/

theorem ofBool_eq_found_iff {b : Bool} : Outcome.ofBool b = .found ↔ b = true := by
  cases b <;> simp [Outcome.ofBool]

/-- What a command on a pattern answers: it completes exactly if the pattern compiles and the texts
can be read, and then it has found something if it rewrites, or if there is an occurrence. -/
structure Answers (literal : Text) (input : Option Text) (compact : Bool) (command : Command) :
    Prop where
  found_iff : ∀ done, command.run input compact = .ok done →
    ∃ p ts, Pattern.compile literal = .ok p ∧ command.texts input = .ok ts ∧
      (done.outcome = .found ↔ command.rewrites = true ∨ ∃ t ∈ ts, p.OccursFrom t command.offset)
  completes : ¬ command.asksBothOrders → ∀ p ts, Pattern.compile literal = .ok p →
    command.texts input = .ok ts → ∃ done, command.run input compact = .ok done

variable {input : Option Text} {compact : Bool} {command : Command} {literal : Text}

/-- The answer is read off what the command completes with. -/
theorem answers_of_run {β : Type} {x : Except Failure β} {toTexts : β → List Text}
    {finish : Pattern → β → Completed}
    (hrun : ∀ done, command.run input compact = .ok done ↔ ¬ command.asksBothOrders ∧
      ∃ p t, Pattern.compile literal = .ok p ∧ x = .ok t ∧ finish p t = done)
    (htexts : command.texts input = x.map toTexts)
    (hfound : ∀ p t, (finish p t).outcome = .found ↔
      command.rewrites = true ∨ ∃ u ∈ toTexts t, p.OccursFrom u command.offset) :
    Answers literal input compact command where
  found_iff done h := by
    obtain ⟨-, p, t, hp, ht, rfl⟩ := (hrun done).1 h
    exact ⟨p, toTexts t, hp, htexts.trans (congrArg (Except.map toTexts) ht), hfound p t⟩
  completes horder p ts hp hts := by
    rw [htexts] at hts
    cases ht : x with
    | error f =>
      rw [ht] at hts
      cases hts
    | ok t => exact ⟨finish p t, (hrun _).2 ⟨horder, p, t, hp, ht, rfl⟩⟩

/-- **When a command has found something.** -/
theorem command_answers (hliteral : command.literal? = some literal)
    (hinvert : command.inverts = false) : Answers literal input compact command := by
  cases command with
  | matchFirst l subject flags offset =>
    obtain rfl := Option.some.inj hliteral
    refine answers_of_run (fun done => run_matchFirst_eq_ok_iff.trans (and_iff_right id).symm) rfl
      fun p t => ?_
    simp [Command.rewrites, Command.offset, ofBool_eq_found_iff, Pattern.isSome_matchFirst_iff]
  | matchEvery l subject flags offset =>
    obtain rfl := Option.some.inj hliteral
    refine answers_of_run (fun done => run_matchEvery_eq_ok_iff) rfl fun p t => ?_
    simp [Command.rewrites, Command.offset, ofBool_eq_found_iff, Pattern.count_matchEvery_pos_iff]
  | replace l replacement subjects limit =>
    obtain rfl := Option.some.inj hliteral
    refine answers_of_run (fun done => run_replace_eq_ok_iff.trans (and_iff_right id).symm) rfl
      fun p t => ?_
    simp [Command.rewrites]
  | split l subject limit flags =>
    obtain rfl := Option.some.inj hliteral
    refine answers_of_run (fun done => run_split_eq_ok_iff.trans (and_iff_right id).symm) rfl
      fun p t => ?_
    simp [Command.rewrites]
  | grep l entries flags =>
    obtain rfl := Option.some.inj hliteral
    have htexts (x : Except Failure (List Text)) : x = x.map id := by cases x <;> rfl
    refine answers_of_run (fun done => run_grep_eq_ok_iff.trans (and_iff_right id).symm)
      (htexts _) fun p ts => ?_
    simp [Command.rewrites, Command.offset, ofBool_eq_found_iff, Pattern.grep_ne_nil_iff hinvert]
  | quote text delimiter => cases hliteral

/-- The offset is behind the first character, which is cut off, so that `^` sees a beginning there;
in the whole line it does not. -/
theorem command_answers_cut :
    let literal := "/^b/".toList
    let command (offset : Int) : Command := .matchEvery literal none {} offset
    (∀ offset, (command offset).literal? = some literal) ∧
      (∀ offset, (command offset).inverts = false) ∧
      ∃ p, Pattern.compile literal = .ok p ∧ p.OccursFrom ['a', 'b'] (-1) ∧
        ¬ p.OccursFrom ['a', 'b'] 0 := by
  intro literal command
  let line : Text := ['a', 'b', '\n']
  have hliteral (offset : Int) : (command offset).literal? = some literal := rfl
  have hinvert (offset : Int) : (command offset).inverts = false := rfl
  have hcut : ((command (-1)).run (some line) true).map Completed.outcome = .ok .found := by
    decide +kernel
  have hwhole : ((command 0).run (some line) true).map Completed.outcome = .ok .nothing := by
    decide +kernel
  obtain ⟨cut, hcut, hfound⟩ := map_eq_ok_iff.1 hcut
  obtain ⟨whole, hwhole, hnothing⟩ := map_eq_ok_iff.1 hwhole
  obtain ⟨p, ts, hp, hts, hiff⟩ :=
    (command_answers (hliteral (-1)) (hinvert (-1))).found_iff cut hcut
  obtain ⟨p', ts', hp', hts', hiff'⟩ :=
    (command_answers (hliteral 0) (hinvert 0)).found_iff whole hwhole
  obtain rfl := Except.ok.inj (hp.symm.trans hp')
  obtain rfl : [['a', 'b']] = ts := Except.ok.inj hts
  obtain rfl : [['a', 'b']] = ts' := Except.ok.inj hts'
  refine ⟨hliteral, hinvert, p, hp, ?_, fun hoccurs => ?_⟩
  · simpa [Command.rewrites, command, Command.offset, hfound] using hiff
  · have hlooked := hiff'.2 (.inr ⟨['a', 'b'], List.mem_cons_self, hoccurs⟩)
    rw [hnothing] at hlooked
    cases hlooked

/-- **A text without any occurrence**, which is one piece and its own replacement, is found. -/
theorem rewriting_found_nothing :
    let literal := "/z/".toList
    let subject := "abc".toList
    (∃ p, Pattern.compile literal = .ok p ∧ ¬ p.OccursFrom subject 0) ∧
      Command.run none true (.split literal (some subject) (-1) {}) =
        .ok ⟨"[\"abc\"]\n".toList, .found⟩ ∧
      (Command.run none true (.replace literal [] [subject] (-1))).map Completed.outcome =
        .ok .found := by
  intro literal subject
  have hmatch : (Pattern.compile literal).map (fun p => p.matcher.isMatch subject) = .ok false := by
    decide +kernel
  obtain ⟨p, hp, hno⟩ := map_eq_ok_iff.1 hmatch
  refine ⟨⟨p, hp, fun h => ?_⟩, by decide +kernel, by decide +kernel⟩
  rw [← Pattern.isMatch_iff_occursFrom, hno] at h
  cases h

end CommandLine
end PatternKit
