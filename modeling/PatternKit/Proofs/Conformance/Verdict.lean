/-
# The verdict on a case

A case runs if it has what its operation needs: the arguments of the table, and names of flags
that all stand for flags of the operation.

| operation | needs | flags |
| --- | --- | --- |
| match, match all | pattern, subject | of matching |
| replace | patterns, replacements and subjects, each as one text or as a list | none are read |
| split | pattern, subject | of splitting |
| grep | pattern, entries | of filtering |
| quote | subject | none are read |

`Case.Runs` says so and what comes of it, `Case.Meets` whether that is as the case expects.  A
case passes exactly if it has one expectation, runs and meets it (`Case.check_verdict`).

The last-error state tells of every outcome (`told_run_new`), so the checks that compare the two
never speak: there is no verdict with their reasons (`Inconsistent`).
-/

import PatternKit.Proofs.Conformance.FlagNames
import PatternKit.Proofs.Session.LastError

namespace PatternKit

open Text

/-- **A text occurs in another** exactly if it is a part of it. -/
theorem Text.occursIn_iff {needle t : Text} : occursIn needle t = true ↔ needle <:+: t := by
  unfold occursIn
  induction t with
  | nil => simp [offsetOf?]
  | cons c t ih =>
    unfold offsetOf?
    rw [List.infix_cons_iff, ← ih]
    by_cases hfront : needle.isPrefixOf (c :: t)
    · simp [hfront, List.isPrefixOf_iff_prefix.1 hfront]
    · simp [hfront, ← List.isPrefixOf_iff_prefix]

namespace Conformance

/-- What a program that ends well did first. -/
theorem exists_of_bind_eq_ok {ε α β : Type} {x : Except ε α} {f : α → Except ε β} {b : β}
    (h : x >>= f = .ok b) : ∃ a, x = .ok a ∧ f a = .ok b := by
  cases x with
  | error e => cases h
  | ok a => exact ⟨a, rfl, h⟩

/-! ## The last error -/

/-- **The last error tells of the outcome**: it reports none after a value, and the error if that
is recorded. -/
def Told {α : Type} (r : Except Error α × Session) : Prop :=
  (∀ a, r.1 = .ok a → r.2.lastError = .none) ∧
    ∀ e code, r.1 = .error e → e.code? = some code → r.2.lastError = ⟨code, e.message⟩

theorem Told.map {α β : Type} {r : Except Error α × Session} (h : Told r) (f : α → β) :
    Told (r.map (·.map f) id) := by
  obtain ⟨outcome, s⟩ := r
  obtain ⟨hvalue, herror⟩ := h
  cases outcome with
  | ok a => exact ⟨fun _ _ => hvalue a rfl, fun e code he => nomatch he⟩
  | error e =>
    refine ⟨fun b hb => (nomatch hb), fun e' code he => ?_⟩
    obtain rfl := Except.error.inj he
    exact herror e code rfl

/-- **Every operation on a new session** leaves a last error that tells of its outcome. -/
theorem told_run_new {α : Type} (op : PatternKit.Operation α) :
    Told (op.run (.new defaultCapacity)) := by
  have hs := Session.valid_new defaultCapacity
  constructor
  · intro a hvalue
    by_cases hnil : op.literals = []
    · rw [Session.run_snd_of_refused op (.inr hnil)]
      rfl
    · exact Session.lastError_of_run_ok hs hvalue hnil
  · intro e code herror hcode
    have hargument (f : ArgumentFault) : e ≠ .argument f := by
      rintro rfl
      cases hcode
    obtain ⟨front, literal, rest, -, -, hfailing, -, hafter⟩ :=
      Session.exists_of_run_error hs herror hargument
    rw [Pattern.code?_of_compile_error hfailing] at hcode
    obtain rfl := Option.some.inj hcode
    rw [hafter]
    rfl

/-! ## Reasons -/

/-- A reason that finds the last-error state at odds with the outcome. -/
def Inconsistent (reason : Text) : Prop :=
  "succeeded but last error is ".toList <+: reason ∨ "error state not recorded".toList <+: reason

/-- A reason that begins otherwise is none of them. -/
theorem not_inconsistent_append {front : Text}
    (h : 2 ≤ front.length ∧ front.take 2 ≠ ['s', 'u'] ∧ front.take 2 ≠ ['e', 'r']) (rest : Text) :
    ¬ Inconsistent (front ++ rest) := by
  obtain ⟨hlength, hsucceeded, herror⟩ := h
  have hfront : (front ++ rest).take 2 = front.take 2 := List.take_append_of_le_length hlength
  rintro (⟨back, hback⟩ | ⟨back, hback⟩)
  · rw [← hback] at hfront
    exact hsucceeded hfront.symm
  · rw [← hback] at hfront
    exact herror hfront.symm

/-- A verdict that says whether something holds, and does not find the last error at odds with
the outcome. -/
inductive Verdict.Decides (p : Prop) : Verdict → Prop
  | passed (h : p) : Decides p .passed
  | failed {reason : Text} (h : ¬ p) (hreason : ¬ Inconsistent reason) : Decides p (.failed reason)

theorem Verdict.Decides.congr {p q : Prop} {v : Verdict} (h : v.Decides p) (hpq : p ↔ q) :
    v.Decides q := by
  cases h with
  | passed hp => exact .passed (hpq.1 hp)
  | failed hp hreason => exact .failed (fun hq => hp (hpq.2 hq)) hreason

/-- A reading that never fails with such a reason. -/
def Consistent {α : Type} (x : Except Text α) : Prop :=
  ∀ reason, x = .error reason → ¬ Inconsistent reason

theorem consistent_ok {α : Type} (a : α) : Consistent (.ok a : Except Text α) := by
  intro reason h
  cases h

theorem Consistent.bind {α β : Type} {x : Except Text α} {f : α → Except Text β}
    (hx : Consistent x) (hf : ∀ a, Consistent (f a)) : Consistent (x >>= f) := by
  intro reason h
  cases hvalue : x with
  | error e =>
    rw [hvalue] at h
    exact hx reason (hvalue.trans (congrArg Except.error (Except.error.inj h)))
  | ok a =>
    rw [hvalue] at h
    exact hf a reason h

theorem Consistent.map {α β : Type} {x : Except Text α} (hx : Consistent x) (f : α → β) :
    Consistent (x.map f) := by
  intro reason h
  cases hvalue : x with
  | error e =>
    rw [hvalue] at h
    exact hx reason (hvalue.trans (congrArg Except.error (Except.error.inj h)))
  | ok a =>
    rw [hvalue] at h
    cases h

theorem consistent_flagBits (names : List FlagName) (texts : List Text) :
    Consistent (flagBits names texts) := by
  induction texts with
  | nil => exact consistent_ok 0
  | cons text texts ih =>
    unfold flagBits
    split
    · exact ih.map _
    · rintro reason h
      obtain rfl := Except.error.inj h
      exact not_inconsistent_append (by decide) _

namespace Case

variable {c : Case}

theorem consistent_need (c : Case) (name : String) (argument : Option Text) :
    Consistent (c.need name argument) := by
  unfold need
  cases argument with
  | some t => exact consistent_ok t
  | none =>
    rintro reason h
    obtain rfl := Except.error.inj h
    rw [List.append_assoc]
    cases c.operation <;> exact not_inconsistent_append (by decide) _

theorem consistent_needEntries (c : Case) : Consistent c.needEntries := by
  unfold needEntries
  cases c.entries with
  | some entries => exact consistent_ok entries
  | none =>
    rintro reason h
    obtain rfl := Except.error.inj h
    exact not_inconsistent_append (by decide) _

theorem consistent_needOneOrMany (name : String) (one : Option Text) (many : Option (List Text)) :
    Consistent (needOneOrMany name one many) := by
  unfold needOneOrMany
  split
  · exact consistent_ok _
  · exact consistent_ok _
  · rintro reason h
    obtain rfl := Except.error.inj h
    rw [List.append_assoc, List.append_assoc]
    exact not_inconsistent_append (by decide) _

/-- **A case that cannot run** is not said to be inconsistent. -/
theorem consistent_prepare (c : Case) : Consistent c.prepare := by
  unfold prepare
  have hmatch : Consistent c.matchFlags := (consistent_flagBits _ _).map _
  have hsplit : Consistent c.splitFlags := (consistent_flagBits _ _).map _
  have hgrep : Consistent c.grepFlags := (consistent_flagBits _ _).map _
  cases c.operation with
  | matchFirst | matchEvery =>
    exact (c.consistent_need _ _).bind fun _ => (c.consistent_need _ _).bind fun _ =>
      hmatch.bind fun _ => consistent_ok _
  | replace =>
    exact (consistent_needOneOrMany _ _ _).bind fun _ =>
      (consistent_needOneOrMany _ _ _).bind fun _ =>
        (consistent_needOneOrMany _ _ _).bind fun _ => consistent_ok _
  | split =>
    exact (c.consistent_need _ _).bind fun _ => (c.consistent_need _ _).bind fun _ =>
      hsplit.bind fun _ => consistent_ok _
  | grep =>
    exact c.consistent_needEntries.bind fun _ => (c.consistent_need _ _).bind fun _ =>
      hgrep.bind fun _ => consistent_ok _
  | quote => exact (c.consistent_need _ _).bind fun _ => consistent_ok _

/-! ## Running a case -/

/-- An argument given as one text or as a list; a list goes first. -/
def given? (one : Option Text) (many : Option (List Text)) : Option (OneOrMany Text) :=
  (many.map .many).or (one.map .one)

/-- **A case runs** with an outcome: it has what its operation needs, and the outcome is that of
the operation in a new session. -/
inductive Runs (c : Case) : Except Error Actual → Prop
  | matchFirst {pattern subject : Text} {bits : Nat} (hoperation : c.operation = .matchFirst)
      (hpattern : c.pattern = some pattern) (hsubject : c.subject = some subject)
      (hflags : Asks MatchFlags.names c.flags bits) :
      c.Runs ((Session.matchOne pattern subject (.ofBits bits) c.offset
        (.new defaultCapacity)).1.map fun row => { value := (Row.optionToJson row).sorted })
  | matchEvery {pattern subject : Text} {bits : Nat} (hoperation : c.operation = .matchEvery)
      (hpattern : c.pattern = some pattern) (hsubject : c.subject = some subject)
      (hflags : Asks MatchFlags.names c.flags bits) :
      c.Runs ((Session.matchAll pattern subject (.ofBits bits) c.offset
        (.new defaultCapacity)).1.map fun found => { value := found.toJson.sorted })
  | replace {patterns replacements subjects : OneOrMany Text} (hoperation : c.operation = .replace)
      (hpatterns : given? c.pattern c.patterns = some patterns)
      (hreplacements : given? c.replacement c.replacements = some replacements)
      (hsubjects : given? c.subject c.subjects = some subjects) :
      c.Runs ((Session.replace patterns replacements subjects (c.limit.getD (-1))
        (.new defaultCapacity)).1.map fun r => { value := r.output.toJson, count := some r.count })
  | split {pattern subject : Text} {bits : Nat} (hoperation : c.operation = .split)
      (hpattern : c.pattern = some pattern) (hsubject : c.subject = some subject)
      (hflags : Asks SplitFlags.names c.flags bits) :
      c.Runs ((Session.split pattern subject (c.limit.getD (-1)) (.ofBits bits)
        (.new defaultCapacity)).1.map fun pieces => { value := (Piece.listToJson pieces).sorted })
  | grep {pattern : Text} {entries : List Text} {bits : Nat} (hoperation : c.operation = .grep)
      (hentries : c.entries = some entries) (hpattern : c.pattern = some pattern)
      (hflags : Asks GrepFlags.names c.flags bits) :
      c.Runs ((Session.grep pattern id entries (.ofBits bits)
        (.new defaultCapacity)).1.map fun kept => { value := (Json.ofEntries kept).sorted })
  | quote {subject : Text} (hoperation : c.operation = .quote)
      (hsubject : c.subject = some subject) :
      c.Runs (.ok { value := .text (PatternKit.quote subject c.delimiter) })

theorem need_eq_ok_iff {name : String} {argument : Option Text} {t : Text} :
    c.need name argument = .ok t ↔ argument = some t := by
  cases argument <;> simp [need]

theorem needEntries_eq_ok_iff {entries : List Text} :
    c.needEntries = .ok entries ↔ c.entries = some entries := by
  unfold needEntries
  cases c.entries <;> simp

theorem needOneOrMany_eq_ok_iff {name : String} {one : Option Text} {many : Option (List Text)}
    {argument : OneOrMany Text} :
    needOneOrMany name one many = .ok argument ↔ given? one many = some argument := by
  cases one <;> cases many <;> simp [needOneOrMany, given?]

theorem map_ofBits_eq_ok_iff {Flags : Type} {ofBits : Nat → Flags} {names : List FlagName}
    (hnames : Family names) {texts : List Text} {flags : Flags} :
    (flagBits names texts).map ofBits = .ok flags ↔
      ∃ bits, Asks names texts bits ∧ ofBits bits = flags := by
  rw [← exists_congr fun bits => and_congr_left' (flagBits_eq_ok_iff hnames)]
  cases flagBits names texts <;> simp [Except.map]

/-- A case that runs has arguments that do, and its outcome is that of the operation. -/
theorem exists_prepare_of_runs {outcome : Except Error Actual} (h : c.Runs outcome) :
    ∃ op, c.prepare = .ok op ∧ (op (.new defaultCapacity)).1 = outcome := by
  cases h with
  | matchFirst hop hpattern hsubject hflags | matchEvery hop hpattern hsubject hflags =>
    have hbits : c.matchFlags = _ := (map_ofBits_eq_ok_iff family_match).2 ⟨_, hflags, rfl⟩
    rw [prepare, hop, need_eq_ok_iff.2 hpattern, need_eq_ok_iff.2 hsubject, hbits]
    exact ⟨_, rfl, rfl⟩
  | replace hop hpatterns hreplacements hsubjects =>
    rw [prepare, hop, needOneOrMany_eq_ok_iff.2 hpatterns,
      needOneOrMany_eq_ok_iff.2 hreplacements, needOneOrMany_eq_ok_iff.2 hsubjects]
    exact ⟨_, rfl, rfl⟩
  | split hop hpattern hsubject hflags =>
    have hbits : c.splitFlags = _ := (map_ofBits_eq_ok_iff family_split).2 ⟨_, hflags, rfl⟩
    rw [prepare, hop, need_eq_ok_iff.2 hpattern, need_eq_ok_iff.2 hsubject, hbits]
    exact ⟨_, rfl, rfl⟩
  | grep hop hentries hpattern hflags =>
    have hbits : c.grepFlags = _ := (map_ofBits_eq_ok_iff family_grep).2 ⟨_, hflags, rfl⟩
    rw [prepare, hop, needEntries_eq_ok_iff.2 hentries, need_eq_ok_iff.2 hpattern, hbits]
    exact ⟨_, rfl, rfl⟩
  | quote hop hsubject =>
    rw [prepare, hop, need_eq_ok_iff.2 hsubject]
    exact ⟨_, rfl, rfl⟩

/-- An operation that searches a subject has read a pattern, the subject and its flags. -/
theorem exists_of_searching {Flags : Type} {names : List FlagName} (hnames : Family names)
    {ofBits : Nat → Flags} {f : Text → Text → Flags → Session.Op Actual} {op : Session.Op Actual}
    (h : (do
      let pattern ← c.need "pattern" c.pattern
      let subject ← c.need "subject" c.subject
      let flags ← (flagBits names c.flags).map ofBits
      return f pattern subject flags) = Except.ok op) :
    ∃ pattern subject bits, c.pattern = some pattern ∧ c.subject = some subject ∧
      Asks names c.flags bits ∧ op = f pattern subject (ofBits bits) := by
  obtain ⟨pattern, hpattern, h⟩ := exists_of_bind_eq_ok h
  obtain ⟨subject, hsubject, h⟩ := exists_of_bind_eq_ok h
  obtain ⟨flags, hflags, h⟩ := exists_of_bind_eq_ok h
  obtain ⟨bits, hbits, rfl⟩ := (map_ofBits_eq_ok_iff hnames).1 hflags
  exact ⟨pattern, subject, bits, need_eq_ok_iff.1 hpattern, need_eq_ok_iff.1 hsubject, hbits,
    (Except.ok.inj h).symm⟩

/-- **Arguments that do** make the case run, and the last error tells of the outcome. -/
theorem runs_of_prepare {op : Session.Op Actual} (h : c.prepare = .ok op) :
    c.Runs (op (.new defaultCapacity)).1 ∧ Told (op (.new defaultCapacity)) := by
  unfold prepare at h
  cases hop : c.operation with
  | matchFirst =>
    rw [hop] at h
    obtain ⟨pattern, subject, bits, hpattern, hsubject, hbits, rfl⟩ :=
      exists_of_searching family_match h
    exact ⟨.matchFirst hop hpattern hsubject hbits,
      (told_run_new (.matchOne pattern subject (.ofBits bits) c.offset)).map _⟩
  | matchEvery =>
    rw [hop] at h
    obtain ⟨pattern, subject, bits, hpattern, hsubject, hbits, rfl⟩ :=
      exists_of_searching family_match h
    exact ⟨.matchEvery hop hpattern hsubject hbits,
      (told_run_new (.matchAll pattern subject (.ofBits bits) c.offset)).map _⟩
  | replace =>
    rw [hop] at h
    obtain ⟨patterns, hpatterns, h⟩ := exists_of_bind_eq_ok h
    obtain ⟨replacements, hreplacements, h⟩ := exists_of_bind_eq_ok h
    obtain ⟨subjects, hsubjects, h⟩ := exists_of_bind_eq_ok h
    obtain rfl := Except.ok.inj h
    exact ⟨.replace hop (needOneOrMany_eq_ok_iff.1 hpatterns)
        (needOneOrMany_eq_ok_iff.1 hreplacements) (needOneOrMany_eq_ok_iff.1 hsubjects),
      (told_run_new (.replace patterns replacements subjects (c.limit.getD (-1)))).map _⟩
  | split =>
    rw [hop] at h
    obtain ⟨pattern, subject, bits, hpattern, hsubject, hbits, rfl⟩ :=
      exists_of_searching family_split h
    exact ⟨.split hop hpattern hsubject hbits,
      (told_run_new (.split pattern subject (c.limit.getD (-1)) (.ofBits bits))).map _⟩
  | grep =>
    rw [hop] at h
    obtain ⟨entries, hentries, h⟩ := exists_of_bind_eq_ok h
    obtain ⟨pattern, hpattern, h⟩ := exists_of_bind_eq_ok h
    obtain ⟨flags, hflags, h⟩ := exists_of_bind_eq_ok h
    obtain ⟨bits, hbits, rfl⟩ := (map_ofBits_eq_ok_iff family_grep).1 hflags
    obtain rfl := Except.ok.inj h
    exact ⟨.grep hop (needEntries_eq_ok_iff.1 hentries) (need_eq_ok_iff.1 hpattern) hbits,
      (told_run_new (.grep pattern id entries (.ofBits bits))).map _⟩
  | quote =>
    rw [hop] at h
    obtain ⟨subject, hsubject, h⟩ := exists_of_bind_eq_ok h
    obtain rfl := Except.ok.inj h
    exact ⟨.quote hop (need_eq_ok_iff.1 hsubject), fun a ha => rfl, fun e code he => nomatch he⟩

/-! ## Judging an outcome -/

/-- **The outcome is as the case expects**: the value, with the number of replacements if both
are known, or the name of the error, with the part of its message if one is given. -/
def Meets (c : Case) : Except Error Actual → Prop
  | .ok actual => c.error = none ∧ c.expect = some actual.value ∧
      ∀ want got, c.count = some want → actual.count = some got → want = got
  | .error e => c.error = some (Error.caseName e) ∧
      ∀ part, c.message = some part → part <:+: e.message

/-- The verdict once the value is as expected. -/
theorem checkState_of_noError {last : LastError} (hlast : last = .none) (c : Case) :
    checkValue.checkState c last = .passed := by
  subst hlast
  exact if_neg fun h => h.2 rfl

/-- A value is compared with the expected one, and a number of replacements with another. -/
theorem checkValue_decides {last : LastError} (hlast : last = .none) (c : Case) (expected : Json)
    (actual : Actual) :
    (c.checkValue expected last actual).Decides (expected = actual.value ∧
      ∀ want got, c.count = some want → actual.count = some got → want = got) := by
  unfold checkValue
  rw [checkState_of_noError hlast]
  by_cases hvalue : expected = actual.value
  · rw [if_neg (not_not.2 hvalue)]
    cases hwant : c.count with
    | none => exact .passed ⟨hvalue, fun want got hw => (nomatch hw)⟩
    | some want =>
      cases hgot : actual.count with
      | none => exact .passed ⟨hvalue, fun want got _ hg => (nomatch hg)⟩
      | some got =>
        by_cases hcount : want = got
        · dsimp only
          rw [if_neg (not_not.2 hcount)]
          refine .passed ⟨hvalue, fun want' got' hw hg => ?_⟩
          rw [← Option.some.inj hw, ← Option.some.inj hg, hcount]
        · dsimp only
          rw [if_pos hcount]
          refine .failed (fun h => hcount (h.2 want got rfl rfl)) ?_
          simp only [List.append_assoc]
          exact not_inconsistent_append (by decide) _
  · rw [if_pos hvalue]
    refine .failed (fun h => hvalue h.1) ?_
    simp only [List.append_assoc]
    exact not_inconsistent_append (by decide) _

/-- The name of an error is compared with the expected one, and its message with a part. -/
theorem checkError_decides {last : LastError} {e : Error}
    (hlast : ∀ code, e.code? = some code → last = ⟨code, e.message⟩) (c : Case) (expected : Text) :
    (c.checkError expected last e).Decides (expected = Error.caseName e ∧
      ∀ part, c.message = some part → part <:+: e.message) := by
  unfold checkError
  by_cases hname : Error.caseName e = expected
  · have hrecorded : ¬ e.code?.any (fun code => last.code ≠ code ∨ last.message ≠ e.message) := by
      cases hcode : e.code? with
      | none => simp
      | some code => simp [hlast code hcode]
    rw [if_neg (not_not.2 hname), if_neg hrecorded]
    cases hmessage : c.message with
    | none => exact .passed ⟨hname.symm, fun part hpart => (nomatch hpart)⟩
    | some part =>
      dsimp only
      by_cases hoccurs : occursIn part e.message
      · rw [if_pos hoccurs]
        refine .passed ⟨hname.symm, fun part' hpart => ?_⟩
        rw [← Option.some.inj hpart]
        exact occursIn_iff.1 hoccurs
      · rw [if_neg hoccurs]
        refine .failed (fun h => hoccurs (occursIn_iff.2 (h.2 part rfl))) ?_
        simp only [List.append_assoc]
        exact not_inconsistent_append (by decide) _
  · rw [if_pos hname]
    refine .failed (fun h => hname h.1.symm) ?_
    simp only [List.append_assoc]
    exact not_inconsistent_append (by decide) _

/-- **A verdict on an outcome** says whether it is as the case expects. -/
theorem judge_decides (hone : c.expect.isSome ≠ c.error.isSome) {outcome : Except Error Actual}
    {s : Session} (htold : Told (outcome, s)) :
    (c.judge s.lastError outcome).Decides (c.Meets outcome) := by
  unfold judge Meets
  cases outcome with
  | ok actual =>
    cases hexpect : c.expect with
    | none =>
      cases herror : c.error with
      | none => simp [hexpect, herror] at hone
      | some code =>
        refine .failed (fun h => (nomatch h.1)) ?_
        simp only [List.append_assoc]
        exact not_inconsistent_append (by decide) _
    | some expected =>
      cases herror : c.error with
      | none => simpa using checkValue_decides (htold.1 actual rfl) c expected actual
      | some code => simp [hexpect, herror] at hone
  | error e =>
    cases herror : c.error with
    | none =>
      refine .failed (fun h => (nomatch h.1)) ?_
      exact not_inconsistent_append (by decide) _
    | some code => simpa using checkError_decides (fun k hk => htold.2 e k rfl hk) c code

/-! ## Checking a case -/

/-- The case has one expectation, runs and meets it. -/
def AsExpected (c : Case) : Prop :=
  c.expect.isSome ≠ c.error.isSome ∧ ∃ outcome, c.Runs outcome ∧ c.Meets outcome

/-- **A case that is not skipped** gets a verdict that says whether it is as expected. -/
theorem check_decides (hskip : c.skip = none) : c.check.Decides c.AsExpected := by
  unfold check
  rw [hskip]
  dsimp only
  by_cases hone : c.expect.isSome = c.error.isSome
  · rw [if_pos hone]
    refine .failed (fun h => h.1 hone) ?_
    simp only [List.append_assoc]
    exact not_inconsistent_append (by decide) _
  · rw [if_neg hone]
    cases hprepare : c.prepare with
    | error reason =>
      refine .failed ?_ (c.consistent_prepare reason hprepare)
      rintro ⟨-, outcome, hruns, -⟩
      obtain ⟨op, hop, -⟩ := exists_prepare_of_runs hruns
      rw [hprepare] at hop
      cases hop
    | ok op =>
      obtain ⟨hruns, htold⟩ := runs_of_prepare hprepare
      refine (judge_decides hone htold).congr ⟨fun h => ⟨hone, _, hruns, h⟩, ?_⟩
      rintro ⟨-, outcome, houtcome, hmeets⟩
      -- the arguments give one operation, so this is the only outcome
      obtain ⟨op', hop', rfl⟩ := exists_prepare_of_runs houtcome
      rw [hprepare] at hop'
      obtain rfl := Except.ok.inj hop'
      exact hmeets

/-- **A case passes exactly when it should.**

* It is skipped if it says so, for the reason that it gives.
* Otherwise it passes if it has one expectation, runs and meets it, and fails if not.
* No failure finds the last error at odds with the outcome. -/
theorem check_verdict (c : Case) :
    (∀ reason, c.check = .skipped reason ↔ c.skip = some reason) ∧
    (c.check = .passed ↔ c.skip = none ∧ c.AsExpected) ∧
    ((∃ reason, c.check = .failed reason) ↔ c.skip = none ∧ ¬ c.AsExpected) ∧
    ∀ reason, c.check = .failed reason → ¬ Inconsistent reason := by
  cases hskip : c.skip with
  | some why =>
    have hcheck : c.check = .skipped why := by
      unfold check
      rw [hskip]
    simp [hcheck]
  | none =>
    have hdecides := check_decides hskip
    generalize c.check = verdict at hdecides
    cases hdecides with
    | passed h => simp [h]
    | failed h hreason => simpa [h] using hreason

/-- A literal without delimiters is an error, which a case may expect. -/
example (c : Case) : Case.check { c with
    skip := none, operation := .matchFirst, pattern := some "a+".toList, subject := some [],
    flags := [], offset := 0, expect := none, error := some "PREG_INTERNAL_ERROR".toList,
    message := some "elimiter".toList } = .passed := by
  rfl

end Case
end Conformance
end PatternKit
