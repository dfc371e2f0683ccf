/-
# Engines

An `Engine` is what patterns need of regular expressions: it makes a `Matcher` of a source
in a mode, or says why it cannot.  Sessions take the engine from their context, as `[Engine]`,
and what is said about them asks for no more than it uses:

| class | promise | asked for by |
| --- | --- | --- |
| `Engine` | none | what a session caches and reports, where a search begins |
| `Engine.Lawful` | the matchers search lawfully | replacing, splitting, positions |
| `Engine.WellNamed` | the matchers name their groups well | keys and JSON |

`PatternKit.Regex` is the engine of the programs, and keeps both promises.
-/

import PatternKit.Matcher

namespace PatternKit

/-- The flags that govern a regular expression. -/
structure Regex.Mode where
  ignoreCase : Bool := false
  multiLine : Bool := false
  dotAll : Bool := false
  swapGreed : Bool := false
  unicode : Bool := true
  crlf : Bool := false
deriving Repr, DecidableEq

/-- What compiles regular expressions. -/
class Engine where
  /-- The matcher of a source in a mode, or what is said about a source that has none. -/
  compile : Regex.Mode → Text → Except Text Matcher

/-- The matchers of the engine search lawfully. -/
class Engine.Lawful [Engine] : Prop where
  lawful : ∀ {mode source m}, Engine.compile mode source = .ok m → m.Lawful

/-- The matchers of the engine name their groups well. -/
class Engine.WellNamed [Engine] : Prop where
  wellNamed : ∀ {mode source m}, Engine.compile mode source = .ok m → m.WellNamed

end PatternKit
