/-
Patterns that names are searched for. A text is either a pattern or not,
and a pattern either occurs in a name or not; where it occurs, and which
of several ways it matches, is of no interest here.
-/
import Coverage.Pattern.Matching
import Coverage.Pattern.Reader

namespace Coverage

/-- A pattern, ready to be searched for. -/
structure Pattern where
  /-- The pattern as a tree. -/
  node : Pattern.Node

namespace Pattern

/-- The pattern that a text stands for, if it is one. -/
def ofString? (text : String) : Option Pattern :=
  (Node.ofText? text.toList).map Pattern.mk

/-- The pattern occurs in the name. -/
def occursIn (p : Pattern) (name : String) : Bool :=
  p.node.matchesIn name.toList

end Pattern

end Coverage
