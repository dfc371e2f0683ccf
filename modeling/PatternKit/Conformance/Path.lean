/-
# Paths of case files

A path is taken apart into components, which a slash separates.

| component | written |
| --- | --- |
| `root` | a slash at the beginning |
| `current` | `.` as the first component; elsewhere it is dropped |
| `parent` | `..` |
| `name` | any other text that is not empty |

A file is a *case file* if its extension is `yaml` or `yml` and it is not hidden.  The
*section* of a case file is its path below the root of the suite, without the
extension.
-/

import PatternKit.Text.Blank

namespace PatternKit
namespace Conformance

/-- A part of a path. -/
inductive Component
  | root
  | current
  | parent
  | name (t : Text)
deriving Repr, DecidableEq

namespace Component

/-- The component that is written so, if it is not dropped. -/
def ofText? (t : Text) : Option Component :=
  if t = [] ∨ t = ['.'] then none
  else if t = ['.', '.'] then some .parent
  else some (.name t)

/-- The name of a component that has one. -/
def name? : Component → Option Text
  | .name t => some t
  | _ => none

end Component

namespace Path

/-- **The components of a path** in order. -/
def components (path : Text) : List Component :=
  let parts := path.splitOn '/'
  let first : List Component := match path, parts with
    | '/' :: _, _ => [.root]
    | _, ['.'] :: _ => [.current]
    | _, _ => []
  first ++ parts.filterMap Component.ofText?

/-- The components that follow those of another path, if it is the beginning of this
one; otherwise all of them. -/
def below (root path : List Component) : List Component :=
  if root.isPrefixOf path then path.drop root.length else path

/-- A file name without its extension, and the extension.  A dot at the beginning
starts no extension. -/
def splitName (name : Text) : Text × Option Text :=
  match Text.cutAtLast? '.' name with
  | none | some ([], _) => (name, none)
  | some (stem, extension) => (stem, some extension)

/-- The name of the file that a path leads to. -/
def fileName? (path : List Component) : Option Text := path.getLast?.bind Component.name?

/-- Whether a path leads to a case file. -/
def isCaseFile (path : List Component) : Bool :=
  match fileName? path with
  | none => false
  | some name =>
    let extension := (splitName name).2
    (extension = some "yaml".toList || extension = some "yml".toList) && name.head? ≠ some '.'

/-- The path without the extension of its file name. -/
def dropExtension (path : List Component) : List Component :=
  match fileName? path with
  | none => path
  | some name => path.dropLast ++ (Component.ofText? (splitName name).1).toList

/-- **The section of a case file.** -/
def sectionName (root path : Text) : Text :=
  let names := (dropExtension (below (components root) (components path))).filterMap Component.name?
  if names = [] then "(root)".toList else Text.join ['/'] names

/-- The names in a path, by which case files are ordered. -/
def orderKey (path : Text) : List Text := (components path).filterMap Component.name?

/-- **The case files among some paths**, in order. -/
def discover (paths : List Text) : List Text :=
  (paths.filter fun p => isCaseFile (components p)).mergeSort fun p q =>
    !decide (orderKey q < orderKey p)

end Path
end Conformance
end PatternKit
