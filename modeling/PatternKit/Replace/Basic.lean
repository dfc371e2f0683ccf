/-
# Replacing occurrences

`substitute` replaces the occurrences of one pattern in one subject; everything
between them is copied.  A replacement may use and change a state, which passes from
each occurrence to the next.

With several patterns each works on the text that the one before it left.  With
several subjects each is taken on its own, and the limit applies to every
pattern and subject anew.
-/

import PatternKit.Match.Search
import PatternKit.OneOrMany
import PatternKit.Replace.Template

namespace PatternKit

/-- The first `limit` elements; a negative limit means all. -/
def takeLimit {α : Type} (limit : Int) (xs : List α) : List α :=
  if limit < 0 then xs else xs.take limit.toNat

/-- The text from byte `last` on with each of the given matches replaced. -/
def stitch {σ : Type} (render : Captures → σ → Text × σ) (t : Text) (last : Nat) :
    List Captures → σ → Text × σ
  | [], s => (t.dropBytes last, s)
  | caps :: rest, s =>
    let (new, s) := render caps s
    let (tail, s) := stitch render t caps.whole.stop rest s
    (t.slice last caps.whole.start ++ new ++ tail, s)

/-- A text after replacements and the number of them. -/
structure Substituted where
  text : Text
  count : Nat
deriving Repr, DecidableEq

/-- **Replaces the first occurrences** of a pattern, as many as the limit allows. -/
def substitute {σ : Type} (m : Matcher) (t : Text) (limit : Int)
    (render : Captures → σ → Text × σ) (s : σ) : Substituted × σ :=
  let found := takeLimit limit (m.occurrences t)
  let (text, s) := stitch render t 0 found s
  (⟨text, found.length⟩, s)

/-- The outcome of a replacement: the new texts, in the shape of the subjects, and
the number of replacements in all of them. -/
structure Replaced where
  output : OneOrMany Text
  count : Nat
deriving Repr, DecidableEq

/-- The new text where there was a single subject. -/
def Replaced.text? (r : Replaced) : Option Text := r.output.one?

/-- Replaces in one subject, one pattern after another.  A step takes a text and
returns it with its replacements made. -/
def substituteEach {α σ : Type} (step : α → Text → σ → Substituted × σ) :
    List α → Text → Nat → σ → Substituted × σ
  | [], t, count, s => (⟨t, count⟩, s)
  | a :: rest, t, count, s =>
    let (r, s) := step a t s
    substituteEach step rest r.text (count + r.count) s

/-- Replaces in every subject and adds up the replacements. -/
def substituteAll {α σ : Type} (step : α → Text → σ → Substituted × σ) (steps : List α)
    (subjects : OneOrMany Text) (s : σ) : Replaced × σ :=
  let (results, s) := subjects.mapState (fun t s => substituteEach step steps t 0 s) s
  (⟨results.map Substituted.text, results.toList.foldl (fun n r => n + r.count) 0⟩, s)

/-- Replaces by templates, each with its pattern. -/
def runTemplates (steps : List (Pattern × Template)) (subjects : OneOrMany Text) (limit : Int) :
    Replaced :=
  let step := fun (p, template) t (s : Unit) =>
    substitute p.matcher t limit (fun caps s => (Template.expand template t caps, s)) s
  (substituteAll step steps subjects ()).1

/-- What replaces a match: a text that depends on its row and on a state. -/
abbrev Callback (σ : Type) := Row → σ → Text × σ

/-- Replaces by a callback. -/
def runCallback {σ : Type} (patterns : List Pattern) (callback : Callback σ)
    (subjects : OneOrMany Text) (limit : Int) (flags : MatchFlags) (s : σ) : Replaced × σ :=
  let step := fun (p : Pattern) t s =>
    substitute p.matcher t limit (fun caps s => callback (Row.ofCaptures p flags t 0 caps) s) s
  substituteAll step patterns subjects s

/-- The template of each pattern.  A single replacement serves all of them; in a
list, a pattern without a counterpart takes the first. -/
def pairTemplates (patterns replacements : OneOrMany Text) :
    Except ArgumentFault (List Template) :=
  match patterns, replacements with
  | .one _, .many _ => .error .listForOne
  | _, .one r => .ok (patterns.toList.map fun _ => Template.parse r)
  | _, .many rs =>
    .ok (patterns.toList.zipIdx.map fun (_, i) => Template.parse ((rs[i]?).getD (rs.headD [])))

end PatternKit
