/-
# Sections and files

Walking a directory gives each file the path of the directory with the names on the way after it
(`Path.descend`).  Its components are those of the directory and then the names
(`components_descend`), so the path tells the names.

The section of a case file is made of these names, the last one without its extension
(`CaseFile.exists_names`).  So two case files have the same section exactly if their paths are the
same but for the extension (`sectionName_eq_iff`).  As there are two extensions, two files can share
a section, and then they share its counts.
-/

import Mathlib.Tactic.SplitIfs
import PatternKit.Proofs.Conformance.Order
import PatternKit.Proofs.Text.Cut

namespace PatternKit
namespace Conformance
namespace Path

/-! ## Components -/

/-- How the components of a path begin is seen from its first character and its first part. -/
theorem components_cons {c : Char} {t part : Text} {parts : List Text}
    (h : (c :: t).splitOn '/' = part :: parts) :
    components (c :: t) =
      (if c = '/' then [Component.root] else if part = ['.'] then [.current] else []) ++
        (part :: parts).filterMap Component.ofText? := by
  unfold components
  rw [h]
  split_ifs with hc hpart
  · subst hc
    rfl
  · subst hpart
    simp [hc]
  · simp [hc, hpart]

/-- What follows a slash has its components after those of what stands before it. -/
theorem components_slash {front : Text} (hfront : front ≠ []) (back : Text) :
    components (front ++ '/' :: back) =
      components front ++ (back.splitOn '/').filterMap Component.ofText? := by
  obtain ⟨c, front, rfl⟩ := List.exists_cons_of_ne_nil hfront
  obtain ⟨part, parts, hparts⟩ := List.exists_cons_of_ne_nil (List.splitOn_ne_nil '/' (c :: front))
  have hall : (c :: (front ++ '/' :: back)).splitOn '/' = part :: (parts ++ back.splitOn '/') := by
    rw [← List.cons_append, List.splitOn_append_cons_self, hparts, List.cons_append]
  rw [List.cons_append, components_cons hall, components_cons hparts, ← List.cons_append,
    List.filterMap_append, List.append_assoc]

/-- A name that an entry of a directory can have. -/
structure IsName (name : Text) : Prop where
  ne_nil : name ≠ []
  ne_current : name ≠ ['.']
  ne_parent : name ≠ ['.', '.']
  noSlash : '/' ∉ name

instance (name : Text) : Decidable (IsName name) :=
  decidable_of_iff (name ≠ [] ∧ name ≠ ['.'] ∧ name ≠ ['.', '.'] ∧ '/' ∉ name)
    ⟨fun h => ⟨h.1, h.2.1, h.2.2.1, h.2.2.2⟩, fun h => ⟨h.1, h.2, h.3, h.4⟩⟩

theorem IsName.ofText? {name : Text} (h : IsName name) :
    Component.ofText? name = some (.name name) := by
  unfold Component.ofText?
  rw [if_neg (not_or.2 ⟨h.ne_nil, h.ne_current⟩), if_neg h.ne_parent]

/-- The path of an entry of a directory: the name follows a slash, unless the path of the directory
is empty or ends with one. -/
def join (directory name : Text) : Text :=
  if directory = [] ∨ directory.getLast? = some '/' then directory ++ name
  else directory ++ '/' :: name

/-- **An entry has one component more** than its directory. -/
theorem components_join (directory : Text) {name : Text} (h : IsName name) :
    components (join directory name) = components directory ++ [.name name] := by
  have hparts : name.splitOn '/' = [name] := List.splitOn_eq_singleton h.noSlash
  have hname : [name].filterMap Component.ofText? = [.name name] := by simp [h.ofText?]
  unfold join
  split_ifs with hjoin
  · rcases hjoin with rfl | hlast
    · obtain ⟨c, t, rfl⟩ := List.exists_cons_of_ne_nil h.ne_nil
      have hc : c ≠ '/' := fun hc => h.noSlash (hc ▸ List.mem_cons_self)
      rw [List.nil_append, components_cons hparts, if_neg hc, if_neg h.ne_current, hname]
      rfl
    · obtain ⟨front, rfl⟩ := List.getLast?_eq_some_iff.1 hlast
      rw [List.append_assoc, List.singleton_append]
      by_cases hfront : front = []
      · subst hfront
        have hroot : ('/' :: name).splitOn '/' = [[], name] := by
          rw [← List.nil_append ('/' :: name), List.splitOn_append_cons_self, hparts]
          rfl
        rw [List.nil_append, List.nil_append, components_cons hroot, if_pos rfl]
        exact congrArg (Component.root :: ·) hname
      · rw [components_slash hfront, components_slash hfront, hparts, hname, List.append_assoc]
        rfl
  · rw [components_slash (not_or.1 hjoin).1, hparts, hname]

/-! ## Files below a directory -/

/-- The path that leads from a root through entries with the given names. -/
def descend (root : Text) (names : List Text) : Text := names.foldl join root

variable {root : Text} {names names' : List Text}

/-- **The components of a path below the root** are those of the root and the names. -/
theorem components_descend (root : Text) (h : ∀ n ∈ names, IsName n) :
    components (descend root names) = components root ++ names.map Component.name := by
  induction names generalizing root with
  | nil => exact (List.append_nil _).symm
  | cons n names ih =>
    obtain ⟨hn, hnames⟩ := List.forall_mem_cons.1 h
    refine (ih (join root n) hnames).trans ?_
    rw [components_join root hn, List.append_assoc]
    rfl

/-- **The names are told** by the path. -/
theorem eq_of_descend_eq (h : ∀ n ∈ names, IsName n) (h' : ∀ n ∈ names', IsName n)
    (heq : descend root names = descend root names') : names = names' := by
  have hcomponents := congrArg components heq
  rw [components_descend root h, components_descend root h'] at hcomponents
  have hinjective : Function.Injective Component.name := fun _ _ => Component.name.inj
  exact List.map_injective_iff.2 hinjective (List.append_cancel_left hcomponents)

theorem descend_append_singleton (root : Text) (names : List Text) (n : Text) :
    descend root (names ++ [n]) = join (descend root names) n := by
  unfold descend
  rw [List.foldl_append]
  rfl

/-- A name with something after it gives a path with that after it. -/
theorem join_append (directory name rest : Text) :
    join directory (name ++ rest) = join directory name ++ rest := by
  unfold join
  split_ifs
  · exact (List.append_assoc _ _ _).symm
  · rw [List.append_assoc]
    rfl

/-- A case file that is found below a root: it is reached by names of entries, and accepted. -/
structure FoundBelow (root path : Text) : Prop where
  exists_names : ∃ names, names ≠ [] ∧ (∀ n ∈ names, IsName n) ∧ path = descend root names
  accepted : isCaseFile (components path) = true

/-- The extensions of case files. -/
def IsExtension (e : Text) : Prop := e = "yaml".toList ∨ e = "yml".toList

/-- What an extension is split off. -/
theorem exists_stem_of_splitName {name e : Text} (h : (splitName name).2 = some e) :
    ∃ stem, stem ≠ [] ∧ name = stem ++ '.' :: e ∧ splitName name = (stem, some e) := by
  unfold splitName at h ⊢
  cases hcut : Text.cutAtLast? '.' name with
  | none => simp [hcut] at h
  | some cut =>
    obtain ⟨stem, back⟩ := cut
    cases stem with
    | nil => simp [hcut] at h
    | cons c stem =>
      obtain rfl : back = e := by simpa [hcut] using h
      exact ⟨c :: stem, List.cons_ne_nil c stem, (Text.cutAtLast?_eq_some_iff.1 hcut).1, rfl⟩

theorem fileName?_concat (path : List Component) (name : Text) :
    fileName? (path ++ [.name name]) = some name := by
  unfold fileName?
  rw [List.getLast?_concat]
  rfl

/-- **The name of a case file** is a name with an extension after it. -/
theorem exists_stem_of_isCaseFile {path : List Component} {file : Text} (hfile : IsName file)
    (h : isCaseFile (path ++ [.name file]) = true) :
    ∃ stem e, IsName stem ∧ IsExtension e ∧ file = stem ++ '.' :: e ∧
      splitName file = (stem, some e) := by
  unfold isCaseFile at h
  simp only [fileName?_concat, Bool.and_eq_true, Bool.or_eq_true, decide_eq_true_eq] at h
  obtain ⟨hextension, hvisible⟩ := h
  obtain ⟨e, he, hsplit⟩ : ∃ e, IsExtension e ∧ (splitName file).2 = some e :=
    hextension.elim (fun h => ⟨_, .inl rfl, h⟩) fun h => ⟨_, .inr rfl, h⟩
  obtain ⟨stem, hstem, rfl, hsplit⟩ := exists_stem_of_splitName hsplit
  obtain ⟨c, t, rfl⟩ := List.exists_cons_of_ne_nil hstem
  -- no hidden name is accepted, so the stem is not one of the special names
  have hc : c ≠ '.' := fun hc => hvisible (congrArg some hc)
  refine ⟨c :: t, e, ⟨hstem, ?_, ?_, fun hslash => ?_⟩, he, rfl, hsplit⟩
  · exact fun h => hc (List.cons.inj h).1
  · exact fun h => hc (List.cons.inj h).1
  · exact hfile.noSlash (List.mem_append_left _ hslash)

theorem below_append (root path : List Component) : below root (root ++ path) = path := by
  unfold below
  rw [if_pos (List.isPrefixOf_iff_prefix.2 (List.prefix_append root path)), List.drop_left]

/-- **The section of a case file** below the root is made of the names that lead to it, the last one
without its extension. -/
theorem FoundBelow.exists_names_stem {path : Text} (h : FoundBelow root path) :
    ∃ names e, names ≠ [] ∧ (∀ n ∈ names, IsName n) ∧ IsExtension e ∧
      path = descend root names ++ '.' :: e ∧ sectionName root path = Text.join ['/'] names := by
  obtain ⟨names, hne, hnames, hpath⟩ := h.exists_names
  obtain ⟨directories, file, rfl⟩ := (List.eq_nil_or_concat' names).resolve_left hne
  obtain ⟨hdirectories, hlast⟩ := List.forall_mem_append.1 hnames
  have hfile : IsName file := hlast file List.mem_cons_self
  have hcomponents : components path =
      components root ++ (directories.map Component.name ++ [.name file]) := by
    rw [hpath, components_descend root hnames, List.map_append]
    rfl
  have haccepted := h.accepted
  rw [hcomponents, ← List.append_assoc] at haccepted
  obtain ⟨stem, e, hstem, he, rfl, hsplit⟩ := exists_stem_of_isCaseFile hfile haccepted
  refine ⟨directories ++ [stem], e, List.append_ne_nil_of_right_ne_nil _ (List.cons_ne_nil _ _),
    List.forall_mem_append.2 ⟨hdirectories, List.forall_mem_singleton.2 hstem⟩, he, ?_, ?_⟩
  · rw [hpath, descend_append_singleton, descend_append_singleton, join_append]
  · have hsection : (dropExtension (below (components root) (components path))).filterMap
        Component.name? = directories ++ [stem] := by
      rw [hcomponents, below_append]
      unfold dropExtension
      rw [fileName?_concat]
      dsimp only
      rw [hsplit, List.dropLast_concat, hstem.ofText?, List.filterMap_append, List.filterMap_map]
      exact congrArg (· ++ [stem]) List.filterMap_some
    unfold sectionName
    rw [hsection]
    exact if_neg (List.append_ne_nil_of_right_ne_nil _ (List.cons_ne_nil _ _))

theorem join_injOn (h : ∀ n ∈ names, IsName n) (h' : ∀ n ∈ names', IsName n) (hne : names ≠ [])
    (hne' : names' ≠ []) (heq : Text.join ['/'] names = Text.join ['/'] names') : names = names' := by
  have hsplit := congrArg (List.splitOn '/') heq
  unfold Text.join at hsplit
  rwa [List.splitOn_intercalate '/' (fun n hn => (h n hn).noSlash) hne,
    List.splitOn_intercalate '/' (fun n hn => (h' n hn).noSlash) hne'] at hsplit

/-- Two paths that differ in the extension alone. -/
def Twins (p q : Text) : Prop :=
  ∃ stem e e', IsExtension e ∧ IsExtension e' ∧ e ≠ e' ∧ p = stem ++ '.' :: e ∧ q = stem ++ '.' :: e'

/-- What stands before an extension. -/
theorem eq_of_append_extension {s s' e e' : Text} (he : IsExtension e) (he' : IsExtension e')
    (h : s ++ '.' :: e = s' ++ '.' :: e') : s = s' ∧ e = e' := by
  have hdot {e : Text} (he : IsExtension e) : '.' ∉ e := by
    rcases he with rfl | rfl <;> decide
  have hcut := Text.cutAtLast?_append (hdot he) s
  rw [h, Text.cutAtLast?_append (hdot he') s'] at hcut
  obtain ⟨rfl, rfl⟩ := Prod.mk.inj (Option.some.inj hcut)
  exact ⟨rfl, rfl⟩

/-- **Two case files have one section** exactly if they are the same or twins. -/
theorem FoundBelow.sectionName_eq_iff {p q : Text} (hp : FoundBelow root p)
    (hq : FoundBelow root q) : sectionName root p = sectionName root q ↔ p = q ∨ Twins p q := by
  obtain ⟨names, e, hne, hnames, he, rfl, hsection⟩ := hp.exists_names_stem
  obtain ⟨names', e', hne', hnames', he', rfl, hsection'⟩ := hq.exists_names_stem
  rw [hsection, hsection']
  constructor
  · intro heq
    obtain rfl := join_injOn hnames hnames' hne hne' heq
    by_cases hextension : e = e'
    · exact .inl (hextension ▸ rfl)
    · exact .inr ⟨_, e, e', he, he', hextension, rfl, rfl⟩
  · intro h
    have hstem : descend root names = descend root names' := by
      rcases h with heq | ⟨stem, f, f', hf, hf', -, hpath, hpath'⟩
      · exact (eq_of_append_extension he he' heq).1
      · rw [(eq_of_append_extension he hf hpath).1, (eq_of_append_extension he' hf' hpath').1]
    rw [eq_of_descend_eq hnames hnames' hstem]

theorem not_twins_self (p : Text) : ¬ Twins p p := by
  rintro ⟨stem, e, e', he, he', hne, rfl, h⟩
  exact hne (eq_of_append_extension he he' h).2

end Path

/-! ## Counts of files -/

/-- The counts of records tell how many there are. -/
theorem Counts.length_eq_of_ofRecords?_eq {rs rs' : List Record}
    (h : Counts.ofRecords? rs = Counts.ofRecords? rs') : rs.length = rs'.length := by
  have htotal (rs : List Record) : ((Counts.ofRecords? rs).map total).getD 0 = rs.length := by
    unfold ofRecords?
    split_ifs with hrs
    · rw [hrs]
      rfl
    · rfl
  rw [← htotal rs, ← htotal rs', h]

open Conformance.Path

/-- **Case files have the same section** exactly if they are the same or twins.  So the counts in
the section of a file are those of its own records exactly if no twin of it has any. -/
theorem section_is_of_file_iff {root p : Text} (hp : FoundBelow root p) :
    (∀ q, FoundBelow root q → (sectionName root p = sectionName root q ↔ p = q ∨ Twins p q)) ∧
    ∀ rs : List Record, (∀ r ∈ rs, FoundBelow root r.path) →
      ((Analysis.ofRecords root rs).sections.get? (sectionName root p) =
          Counts.ofRecords? (rs.filter fun r => r.path = p) ↔
        ∀ r ∈ rs, ¬ Twins p r.path) := by
  refine ⟨fun q hq => hp.sectionName_eq_iff hq, fun rs hrs => ?_⟩
  have hsame : ∀ r ∈ rs, (sectionName root r.path = sectionName root p ↔
      p = r.path ∨ Twins p r.path) := fun r hr => by
    rw [eq_comm, hp.sectionName_eq_iff (hrs r hr)]
  rw [(Analysis.tells_ofRecords root rs).sections]
  unfold inSection
  constructor
  · intro hcounts r hr htwins
    -- the records of the file are some of those of its section, and as many
    have hfile : (rs.filter fun r => r.path = p) =
        (rs.filter fun r => sectionName root r.path = sectionName root p).filter
          fun r => r.path = p := by
      rw [List.filter_filter]
      refine List.filter_congr fun r _ => ?_
      by_cases h : r.path = p <;> simp [h]
    have hlength := Counts.length_eq_of_ofRecords?_eq hcounts
    rw [hfile, eq_comm, List.length_filter_eq_length_iff] at hlength
    have hmem : r ∈ rs.filter fun r => sectionName root r.path = sectionName root p :=
      List.mem_filter.2 ⟨hr, decide_eq_true ((hsame r hr).2 (.inr htwins))⟩
    have hpath : r.path = p := of_decide_eq_true (hlength r hmem)
    exact not_twins_self p (hpath ▸ htwins)
  · intro hnone
    congr 1
    refine List.filter_congr fun r hr => decide_eq_decide.2 ?_
    rw [hsame r hr, or_iff_left (hnone r hr), eq_comm]

/-- Another dot in the name, and a file of the same name in the directory above, make no difference:
neither file is a twin of the other. -/
theorem section_is_of_file_iff_dots :
    let p := "c/d/a.b.yaml".toList
    let q := "c/a.b.yml".toList
    let rs : List Record := [⟨p, ['x'], .passed⟩, ⟨q, ['y'], .skipped ['z']⟩]
    FoundBelow ['c'] p ∧ (∀ r ∈ rs, FoundBelow ['c'] r.path) ∧
      sectionName ['c'] p ≠ sectionName ['c'] q ∧
      (Analysis.ofRecords ['c'] rs).sections.get? (sectionName ['c'] p) = some ⟨1, 1, 0, 0⟩ := by
  intro p q rs
  have hp : FoundBelow ['c'] p := ⟨⟨[['d'], "a.b.yaml".toList], by decide, by decide, rfl⟩, by decide⟩
  have hq : FoundBelow ['c'] q := ⟨⟨["a.b.yml".toList], by decide, by decide, rfl⟩, by decide⟩
  have hrs : ∀ r ∈ rs, FoundBelow ['c'] r.path := by simp [rs, hp, hq]
  have hne : sectionName ['c'] p ≠ sectionName ['c'] q := by decide
  obtain ⟨hsections, hcounts⟩ := section_is_of_file_iff hp
  have hapart : ¬ Twins p q := fun h => hne ((hsections q hq).2 (.inr h))
  have hnone : ∀ r ∈ rs, ¬ Twins p r.path := by simp [rs, hapart, not_twins_self]
  exact ⟨hp, hrs, hne, (hcounts rs hrs).2 hnone⟩

/-- **Twins are counted as one file.** -/
theorem twins_share_section :
    let p := "c/a.yaml".toList
    let q := "c/a.yml".toList
    FoundBelow ['c'] p ∧ FoundBelow ['c'] q ∧ p ≠ q ∧ sectionName ['c'] p = sectionName ['c'] q ∧
      (Analysis.ofRecords ['c'] [⟨p, ['x'], .passed⟩, ⟨q, ['y'], .failed ['z']⟩]).sections =
        [(['a'], ⟨2, 1, 1, 0⟩)] := by
  intro p q
  exact ⟨⟨⟨["a.yaml".toList], by decide, by decide, rfl⟩, by decide⟩,
    ⟨⟨["a.yml".toList], by decide, by decide, rfl⟩, by decide⟩, by decide, by decide, by decide⟩

end Conformance
end PatternKit
