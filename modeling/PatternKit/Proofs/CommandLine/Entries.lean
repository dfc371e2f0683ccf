/-
# Entries from standard input

Entries to filter are arguments, or else the lines of standard input.  A line feed at the end of
the input is taken off it before it is broken into lines, and breaking it takes off another one:

| input | entries |
| --- | --- |
| `a`, line feed, `b`, line feed | `a`, `b` |
| `a`, line feed, line feed | `a` |
| line feed | none |

So an empty entry at the end is lost, and no other one (`lines_dropLineEnd`).  What is printed shows
it exactly if the pattern compiles and keeps empty entries (`run_grep_unlines_iff`).
-/

import PatternKit.CommandLine.Run
import PatternKit.Proofs.Json.Results
import PatternKit.Proofs.Number.Digits
import PatternKit.Proofs.Session.Compile
import PatternKit.Proofs.Table

namespace PatternKit

/-! ## Lines -/

namespace Text

variable {ls : List Text} {last : Text}

theorem unlines_append_eq_intercalate (ls : List Text) (last : Text) :
    unlines ls ++ last = ['\n'].intercalate (ls ++ [last]) := by
  induction ls with
  | nil => simp [unlines]
  | cons l ls ih =>
    obtain ⟨next, rest, hnext⟩ : ∃ next rest, ls ++ [last] = next :: rest :=
      List.exists_cons_of_ne_nil (List.append_ne_nil_of_right_ne_nil ls (List.cons_ne_nil _ _))
    have hcons : unlines (l :: ls) = l ++ ['\n'] ++ unlines ls := List.flatMap_cons
    rw [hcons, List.append_assoc, ih, List.cons_append, hnext, List.intercalate_cons_cons]

theorem dropReturn_of_notMem {t : Text} (h : '\r' ∉ t) : dropReturn t = t :=
  if_neg fun hlast => h (List.mem_of_getLast? hlast)

/-- **The lines of lines**, each with a line feed at its end but for the last one: this one is
left out if it is empty. -/
theorem lines_unlines_append (h : ∀ l ∈ ls, '\n' ∉ l ∧ '\r' ∉ l) (hlast : '\n' ∉ last) :
    lines (unlines ls ++ last) = ls ++ if last = [] then [] else [last] := by
  have hparts : (unlines ls ++ last).splitOn '\n' = ls ++ [last] := by
    rw [unlines_append_eq_intercalate]
    refine List.splitOn_intercalate '\n' (fun l hl => ?_) (by simp)
    rcases List.mem_append.1 hl with hl | hl
    · exact (h l hl).1
    · exact List.mem_singleton.1 hl ▸ hlast
  have hended : ls.map dropReturn = ls :=
    (List.map_congr_left fun l hl => dropReturn_of_notMem (h l hl).2).trans ls.map_id
  unfold lines
  simp only [hparts, List.dropLast_concat, List.getLast?_concat, hended]
  cases last with
  | nil => simp
  | cons c t => simp

end Text

open Text

/-! ## Filtered entries as JSON -/

namespace Json

/-- The values of a table of members are those of the members. -/
theorem forall_mem_sortedMembers {P : Json → Prop} {members : List (Text × Json)}
    (h : ∀ m ∈ members, P (sorted m.2)) {done : Table Json} (hdone : ∀ e ∈ done, P e.2) :
    ∀ e ∈ sortedMembers members done, P e.2 := by
  induction members generalizing done with
  | nil => exact hdone
  | cons m members ih =>
    obtain ⟨hm, hmembers⟩ := List.forall_mem_cons.1 h
    exact ih hmembers (Table.forall_mem_alter hm (fun _ _ => hm) hdone)

theorem mem_keys_sortedMembers {members : List (Text × Json)} {done : Table Json} {k : Text} :
    k ∈ (sortedMembers members done).keys ↔ k ∈ members.map Prod.fst ∨ k ∈ done.keys := by
  induction members generalizing done with
  | nil => simp [sortedMembers]
  | cons m members ih =>
    rw [sortedMembers, ih, Table.insert, Table.mem_keys_alter, List.map_cons, List.mem_cons]
    exact or_left_comm.trans or_assoc.symm

theorem ordered_sortedMembers (members : List (Text × Json)) {done : Table Json}
    (h : done.Ordered) : Table.Ordered (sortedMembers members done) := by
  induction members generalizing done with
  | nil => exact h
  | cons m members ih => exact ih h.alter

/-- **Filtered entries have one member for each position.** -/
theorem exact_ofEntries (kept : List (Nat × Text)) : (ofEntries kept).Exact := by
  refine exact_object (ordered_sortedMembers _ Table.ordered_nil).nodup_keys
    (forall_mem_sortedMembers (List.forall_mem_map.2 fun e _ => exact_text e.2) ?_)
  exact fun e he => absurd he List.not_mem_nil

/-- **The positions are told** by filtered entries. -/
theorem mem_of_ofEntries_eq {kept kept' : List (Nat × Text)} (h : ofEntries kept = ofEntries kept')
    {i : Nat} {t : Text} (hi : (i, t) ∈ kept) : ∃ t', (i, t') ∈ kept' := by
  let members (ks : List (Nat × Text)) : Table Json :=
    sortedMembers (ks.map fun e => (decimal e.1, .text e.2)) []
  have hkeys (ks : List (Nat × Text)) (j : Nat) :
      decimal j ∈ (members ks).keys ↔ ∃ t, (j, t) ∈ ks := by
    rw [mem_keys_sortedMembers, List.map_map]
    simp [Table.keys, decimal_injective.eq_iff]
  have hmembers : members kept = members kept' := Json.object.inj h
  rw [← hkeys, ← hmembers, hkeys]
  exact ⟨t, hi⟩

end Json

namespace CommandLine

/-- Different values are printed differently. -/
theorem jsonOutput_injOn (compact : Bool) : Set.InjOn (jsonOutput compact) {v | v.Exact} := by
  intro v hv w hw h
  have hkept (v : Json) (hv : v.Exact) : Json.Kept (fun _ => true) v := hv.kept fun _ _ => rfl
  cases compact with
  | true =>
    have htext : v.compact = w.compact := List.append_cancel_right h
    have hboth : Json.IsText w v.compact := htext ▸ Json.isText_compact w
    exact (Json.isText_compact v).eq_of_isText hboth (hkept v hv) (hkept w hw)
  | false =>
    have htext : v.indented = w.indented := List.append_cancel_right h
    have hboth : Json.IsText w v.indented := htext ▸ Json.isText_indented w
    exact (Json.isText_indented v).eq_of_isText hboth (hkept v hv) (hkept w hw)

/-! ## Filtering -/

variable {pattern : Text} {entries : List Text} {flags : GrepFlags} {compact : Bool}

/-- What filtering entries by a pattern completes with. -/
def filtering (compact : Bool) (pattern : Text) (entries : List Text) (flags : GrepFlags) :
    Except Failure Completed :=
  match Pattern.compile pattern with
  | .error e => .error (.library e)
  | .ok p =>
    let kept := p.grep id entries flags
    .ok ⟨jsonOutput compact (Json.ofEntries kept), .ofBool !kept.isEmpty⟩

/-- The last step of the command. -/
theorem evaluate_grep (compact : Bool) (pattern : Text) (entries : List Text) (flags : GrepFlags) :
    (evaluate (Session.grep pattern id entries flags)).map (fun kept =>
      (⟨jsonOutput compact (Json.ofEntries kept), .ofBool !kept.isEmpty⟩ : Completed)) =
      filtering compact pattern entries flags := by
  have hvalue : (Session.grep pattern id entries flags (Session.new defaultCapacity)).1 =
      (Pattern.compile pattern).map fun p => p.grep id entries flags :=
    Session.withPattern_fst (Session.valid_new defaultCapacity)
  unfold evaluate filtering
  rw [hvalue]
  cases Pattern.compile pattern <;> rfl

/-- **With entries among the arguments** these are filtered, whatever the input. -/
theorem run_grep_of_ne_nil (input : Option Text) (h : entries ≠ []) :
    Command.run input compact (.grep pattern entries flags) =
      filtering compact pattern entries flags := by
  rw [← evaluate_grep]
  unfold Command.run
  simp only [if_neg h]
  rfl

/-- **Without entries among the arguments** those of the input are filtered. -/
theorem run_grep_nil (input : Text) :
    Command.run (some input) compact (.grep pattern [] flags) =
      filtering compact pattern (lines (dropLineEnd input)) flags := by
  rw [← evaluate_grep]
  rfl

/-- **One line end is taken off the input**, and breaking it into lines takes off another one: of
entries on lines of their own the last is left out if it is empty. -/
theorem lines_dropLineEnd {front : List Text} {last : Text}
    (h : ∀ l ∈ front, '\n' ∉ l ∧ '\r' ∉ l) (hlast : '\n' ∉ last ∧ '\r' ∉ last) :
    lines (dropLineEnd (unlines (front ++ [last]))) =
      front ++ if last = [] then [] else [last] := by
  have hinput : unlines (front ++ [last]) = (unlines front ++ last) ++ ['\n'] := by
    simp [unlines]
  have hreturn : '\r' ∉ unlines front ++ last := by
    intro hmem
    rcases List.mem_append.1 hmem with hmem | hmem
    · obtain ⟨l, hl, hmem⟩ := List.mem_flatMap.1 hmem
      exact (h l hl).2 (by simpa using hmem)
    · exact hlast.2 hmem
  unfold dropLineEnd
  rw [hinput, List.getLast?_concat, if_pos rfl, List.dropLast_concat, dropReturn_of_notMem hreturn,
    lines_unlines_append h hlast.1]

/-- An empty entry at the end is kept or not, and changes nothing about the others. -/
theorem grep_concat_nil (p : Pattern) (front : List Text) (flags : GrepFlags) :
    p.grep id (front ++ [[]]) flags = p.grep id front flags ++
      if p.matcher.isMatch [] = flags.invert then [] else [(front.length, [])] := by
  unfold Pattern.grep
  rw [List.zipIdx_append, List.filter_append, List.map_append]
  by_cases h : p.matcher.isMatch [] = flags.invert <;> simp [h]

/-- **When an empty entry at the end shows**: if the pattern compiles and the entry is kept. -/
theorem filtering_concat_nil_iff {front : List Text} :
    filtering compact pattern front flags = filtering compact pattern (front ++ [[]]) flags ↔
      ∀ p, Pattern.compile pattern = .ok p → p.matcher.isMatch [] = flags.invert := by
  unfold filtering
  cases hp : Pattern.compile pattern with
  | error e => simp
  | ok p =>
    simp only [Except.ok.injEq, forall_eq', grep_concat_nil]
    by_cases hempty : p.matcher.isMatch [] = flags.invert
    · simp [hempty]
    · refine iff_of_false (fun h => ?_) hempty
      rw [if_neg hempty] at h
      have hjson := jsonOutput_injOn compact (Json.exact_ofEntries _) (Json.exact_ofEntries _)
        (congrArg Completed.output h)
      -- the position of the empty entry is that of no entry before it
      obtain ⟨t, ht⟩ := Json.mem_of_ofEntries_eq hjson.symm
        (List.mem_append_right _ (List.mem_singleton.2 rfl))
      have hfound := ((p.mem_grep_iff id front flags front.length t).1 ht).1
      simp at hfound

/-- **What is read from standard input** of entries that stand there on lines of their own.  All of
them are filtered but an empty one at the end.  So the outcome and what is printed, or the failure,
are those of the command with the entries as arguments exactly if the last entry is not empty, or
the pattern does not compile, or an empty entry is not kept. -/
theorem run_grep_unlines_iff (hne : entries ≠ []) (h : ∀ e ∈ entries, '\n' ∉ e ∧ '\r' ∉ e)
    (pattern : Text) (flags : GrepFlags) (compact : Bool) (input : Option Text) :
    let fromInput := Command.run (some (unlines entries)) compact (.grep pattern [] flags)
    let fromArguments := Command.run input compact (.grep pattern entries flags)
    fromArguments = filtering compact pattern entries flags ∧
      fromInput = filtering compact pattern
        (if entries.getLast hne = [] then entries.dropLast else entries) flags ∧
      (fromInput = fromArguments ↔ entries.getLast hne ≠ [] ∨
        ∀ p, Pattern.compile pattern = .ok p → p.matcher.isMatch [] = flags.invert) := by
  intro fromInput fromArguments
  have harguments : fromArguments = filtering compact pattern entries flags :=
    run_grep_of_ne_nil input hne
  obtain ⟨front, last, rfl⟩ := (List.eq_nil_or_concat' entries).resolve_left hne
  obtain ⟨hfront, hall⟩ := List.forall_mem_append.1 h
  have hlast := hall last List.mem_cons_self
  have hinput : fromInput = filtering compact pattern
      (front ++ if last = [] then [] else [last]) flags := by
    rw [← lines_dropLineEnd hfront hlast]
    exact run_grep_nil _
  rw [harguments, hinput]
  simp only [List.getLast_concat, List.dropLast_concat]
  by_cases hempty : last = []
  · subst hempty
    simp [filtering_concat_nil_iff]
  · simp [hempty]

/-- An empty entry in the middle is read: it is kept with its position, as it is from the
arguments. -/
theorem run_grep_unlines_iff_middle :
    let entries : List Text := [['é'], [], ['b']]
    let flags : GrepFlags := { invert := true }
    let fromInput := Command.run (some ['é', '\n', '\n', 'b', '\n']) true (.grep "/b/".toList [] flags)
    let fromArguments := Command.run none true (.grep "/b/".toList entries flags)
    entries ≠ [] ∧ (∀ e ∈ entries, '\n' ∉ e ∧ '\r' ∉ e) ∧ fromInput = fromArguments ∧
      fromInput = .ok ⟨"\x7b\"0\":\"é\",\"1\":\"\"\x7d\n".toList, .found⟩ := by
  intro entries flags fromInput fromArguments
  have hne : entries ≠ [] := by decide
  have hentries : ∀ e ∈ entries, '\n' ∉ e ∧ '\r' ∉ e := by decide
  obtain ⟨-, -, hsame⟩ := run_grep_unlines_iff hne hentries "/b/".toList flags true none
  have hlast : entries.getLast hne ≠ [] := List.cons_ne_nil _ _
  exact ⟨hne, hentries, hsame.2 (.inl hlast), by decide +kernel⟩

/-- **An empty line at the end is lost.**  As an argument the empty entry is kept, since it does not
match; from standard input there is none. -/
theorem empty_line_lost :
    let flags : GrepFlags := { invert := true }
    unlines [['a'], []] = ['a', '\n', '\n'] ∧
      Command.run (some (unlines [['a'], []])) true (.grep "/a/".toList [] flags) =
        .ok ⟨"\x7b\x7d\n".toList, .nothing⟩ ∧
      Command.run none true (.grep "/a/".toList [['a'], []] flags) =
        .ok ⟨"\x7b\"1\":\"\"\x7d\n".toList, .found⟩ := by
  intro flags
  exact ⟨rfl, by decide +kernel, by decide +kernel⟩

end CommandLine
end PatternKit
