/-
# Readers that leave the names alone

While an expression is read, the scanner keeps a list of the group names taken.  Only the
opening of a named group adds to it.  Every other reader, from `bump` to `flags`, leaves
it as it was, however often it moves the scanner: one triple for each says so, by
induction on the fuel where it loops.  Those that read a part say as well that what they
read is no group.
-/

import Mathlib
import PatternKit.Proofs.Regex.Groups

namespace PatternKit
namespace Regex
namespace Scan

set_option mvcgen.warning false

open Std.Do

attribute [local spec] pos peek? atEnd isNext bumpBy peekSecond? peekPastLayout?

@[spec high]
theorem triple_throw {α : Type} {fault : Fault}
    {post : PostCond α (.arg Scanner (.except Fault .pure))} :
    ⦃fun _ => post.2.1 fault⦄ (MonadExceptOf.throw fault : Scan α) ⦃post⦄ :=
  fun _ => id

@[spec]
theorem triple_fail {α : Type} {cause : Cause} {start stop : Nat}
    {post : PostCond α (.arg Scanner (.except Fault .pure))} :
    ⦃fun _ => post.2.1 { cause, extent := ⟨start, stop⟩ }⦄ fail cause start stop ⦃post⦄ :=
  fun _ => id

variable {names : List (Text × Extent)}

@[spec]
theorem triple_bump : ⦃fun s => ⌜s.names = names⌝⦄ bump ⦃⇓? _ s => ⌜s.names = names⌝⦄ := by
  mvcgen [bump]
  grind

@[spec]
theorem triple_skipLayout :
    ⦃fun s => ⌜s.names = names⌝⦄ skipLayout ⦃⇓? _ s => ⌜s.names = names⌝⦄ := by
  mvcgen [skipLayout]
  grind

@[spec]
theorem triple_bumpIf (text : String) :
    ⦃fun s => ⌜s.names = names⌝⦄ bumpIf text ⦃⇓? _ s => ⌜s.names = names⌝⦄ := by
  mvcgen [bumpIf]

@[spec]
theorem triple_advance :
    ⦃fun s => ⌜s.names = names⌝⦄ advance ⦃⇓? _ s => ⌜s.names = names⌝⦄ := by
  mvcgen [advance]
  grind

@[spec]
theorem triple_discard_advance :
    ⦃fun s => ⌜s.names = names⌝⦄ discard advance ⦃⇓? _ s => ⌜s.names = names⌝⦄ := by
  show ⦃_⦄ (advance >>= fun _ => pure ()) ⦃_⦄
  mvcgen
  grind

@[spec]
theorem triple_hexDigit :
    ⦃fun s => ⌜s.names = names⌝⦄ hexDigit ⦃⇓? _ s => ⌜s.names = names⌝⦄ := by
  mvcgen [hexDigit]

@[spec]
theorem triple_moreHex (read : List Char) (more : Nat) :
    ⦃fun s => ⌜s.names = names⌝⦄ moreHex read more ⦃⇓? _ s => ⌜s.names = names⌝⦄ := by
  induction more generalizing read names with
  | zero => mvcgen [moreHex]
  | succ more ih =>
    mvcgen [moreHex, ih]
    grind

@[spec]
theorem triple_bracedHex (opening : Nat) (read : List Char) (fuel : Nat) :
    ⦃fun s => ⌜s.names = names⌝⦄ bracedHex opening read fuel ⦃⇓? _ s => ⌜s.names = names⌝⦄ := by
  induction fuel generalizing read names with
  | zero => mvcgen [bracedHex]
  | succ fuel ih => mvcgen [bracedHex, ih] <;> grind

@[spec]
theorem triple_hexLetter (start width : Nat) (byte : Bool) :
    ⦃fun s => ⌜s.names = names⌝⦄ hexLetter start width byte ⦃⇓? _ s => ⌜s.names = names⌝⦄ := by
  mvcgen [hexLetter] <;> grind

@[spec]
theorem triple_propertyName (name : List Char) (fuel : Nat) :
    ⦃fun s => ⌜s.names = names⌝⦄ propertyName name fuel ⦃⇓? _ s => ⌜s.names = names⌝⦄ := by
  induction fuel generalizing name names with
  | zero => mvcgen [propertyName]
  | succ fuel ih => mvcgen [propertyName, ih] <;> grind

@[spec]
theorem triple_propertyClass (start : Nat) (negated : Bool) :
    ⦃fun s => ⌜s.names = names⌝⦄ propertyClass start negated
      ⦃⇓? part s => ⌜s.names = names ∧ part.groups = []⌝⦄ := by
  mvcgen [propertyClass] <;> grind [Syntax.groups]

@[spec]
theorem triple_boundaryName (name : List Char) (fuel : Nat) :
    ⦃fun s => ⌜s.names = names⌝⦄ boundaryName name fuel ⦃⇓? _ s => ⌜s.names = names⌝⦄ := by
  induction fuel generalizing name names with
  | zero => mvcgen [boundaryName]
  | succ fuel ih =>
    mvcgen [boundaryName, ih]
    grind

@[spec]
theorem triple_specialBoundary? (start : Nat) :
    ⦃fun s => ⌜s.names = names⌝⦄ specialBoundary? start ⦃⇓? _ s => ⌜s.names = names⌝⦄ := by
  mvcgen [specialBoundary?] <;> grind

/-- An escape is no group. -/
@[spec]
theorem triple_escape :
    ⦃fun s => ⌜s.names = names⌝⦄ escape ⦃⇓? part s => ⌜s.names = names ∧ part.groups = []⌝⦄ := by
  mvcgen [escape] <;> grind [Syntax.groups]

@[spec]
theorem triple_unclosedClass {α : Type} (stack : List ClassFrame) :
    ⦃⌜True⌝⦄ unclosedClass (α := α) stack ⦃⇓? _ _ => ⌜False⌝⦄ := by
  mvcgen [unclosedClass]

@[spec]
theorem triple_leadingDashes (opening : Nat) (run : ItemRun) (fuel : Nat) :
    ⦃fun s => ⌜s.names = names⌝⦄ leadingDashes opening run fuel ⦃⇓? _ s => ⌜s.names = names⌝⦄ := by
  induction fuel generalizing run names with
  | zero => mvcgen [leadingDashes]
  | succ fuel ih =>
    mvcgen [leadingDashes, ih]
    grind

@[spec]
theorem triple_openBracket (outer : ItemRun) :
    ⦃fun s => ⌜s.names = names⌝⦄ openBracket outer ⦃⇓? _ s => ⌜s.names = names⌝⦄ := by
  mvcgen [openBracket] <;> grind

@[spec]
theorem triple_classItem :
    ⦃fun s => ⌜s.names = names⌝⦄ classItem ⦃⇓? _ s => ⌜s.names = names⌝⦄ := by
  mvcgen [classItem] <;> grind

@[spec]
theorem triple_classRange (stack : List ClassFrame) :
    ⦃fun s => ⌜s.names = names⌝⦄ classRange stack ⦃⇓? _ s => ⌜s.names = names⌝⦄ := by
  mvcgen [classRange, asItem, asBound] <;> grind

@[spec]
theorem triple_classBody (stack : List ClassFrame) (run : ItemRun) (fuel : Nat) :
    ⦃fun s => ⌜s.names = names⌝⦄ classBody stack run fuel
      ⦃⇓? part s => ⌜s.names = names ∧ part.groups = []⌝⦄ := by
  induction fuel generalizing stack run names with
  | zero => mvcgen [classBody]; grind
  | succ fuel ih => mvcgen [classBody, ih] <;> grind [Syntax.groups]

/-- A class is no group. -/
@[spec]
theorem triple_bracketed :
    ⦃fun s => ⌜s.names = names⌝⦄ bracketed
      ⦃⇓? part s => ⌜s.names = names ∧ part.groups = []⌝⦄ := by
  mvcgen [bracketed]
  grind

@[spec]
theorem triple_primitive (c : Char) :
    ⦃fun s => ⌜s.names = names⌝⦄ primitive c
      ⦃⇓? part s => ⌜s.names = names ∧ part.groups = []⌝⦄ := by
  mvcgen [primitive] <;> grind [Syntax.groups]

@[spec]
theorem triple_isLazy :
    ⦃fun s => ⌜s.names = names⌝⦄ isLazy ⦃⇓? _ s => ⌜s.names = names⌝⦄ := by
  mvcgen [isLazy]
  grind

@[spec]
theorem triple_skipBlanks :
    ⦃fun s => ⌜s.names = names⌝⦄ skipBlanks ⦃⇓? _ s => ⌜s.names = names⌝⦄ := by
  mvcgen [skipBlanks]

@[spec]
theorem triple_digits (read : List Char) (fuel : Nat) :
    ⦃fun s => ⌜s.names = names⌝⦄ digits read fuel ⦃⇓? _ s => ⌜s.names = names⌝⦄ := by
  induction fuel generalizing read names with
  | zero => mvcgen [digits]
  | succ fuel ih =>
    mvcgen [digits, ih]
    grind

@[spec]
theorem triple_count :
    ⦃fun s => ⌜s.names = names⌝⦄ count ⦃⇓? _ s => ⌜s.names = names⌝⦄ := by
  mvcgen [count] <;> grind

@[spec high]
theorem triple_monadLift {α : Type} (x : Except Fault α) :
    ⦃fun s => ⌜s.names = names⌝⦄ (MonadLift.monadLift x : Scan α)
      ⦃⇓? _ s => ⌜s.names = names⌝⦄ := by
  cases x with
  | error _ => exact fun _ _ => trivial
  | ok a => exact fun s h => h

@[spec]
theorem triple_countBounds (start : Nat) :
    ⦃fun s => ⌜s.names = names⌝⦄ countBounds start ⦃⇓? _ s => ⌜s.names = names⌝⦄ := by
  mvcgen [countBounds] <;> grind

@[spec]
theorem triple_flags (run : FlagRun) (lastDash : Option Nat) (fuel : Nat) :
    ⦃fun s => ⌜s.names = names⌝⦄ flags run lastDash fuel ⦃⇓? _ s => ⌜s.names = names⌝⦄ := by
  induction fuel generalizing run lastDash names with
  | zero => mvcgen [flags]
  | succ fuel ih => mvcgen [flags, ih] <;> grind

end Scan
end Regex
end PatternKit
