import TypedQuery.Number.Integer
import TypedQuery.Text.Class

/-!
# Paths, sorts and pages

A path names a member of an element, or a member of a member and so on, with points between the
names. Blanks around a name and empty names do not count.

A sort says by which path a sequence is sorted, and in which direction; without a path the sequence is
kept, or reversed. A page is asked for by its number, counted from one, and its size. The number of
elements in front of the page is kept in the 64-bit range, in both of the steps that compute it.
-/

namespace TypedQuery

open Number Text

/-! ## Paths -/

/-- A dotted member path relative to the element of a sequence. -/
structure FieldPath where
  raw : String
deriving DecidableEq, Inhabited

namespace FieldPath

/-- The parts of a text between points; `part` is what is read of the current one, backwards. -/
def splitAtPoints (part : List Char) : List Char → List (List Char)
  | [] => [part.reverse]
  | c :: cs => if c == '.' then part.reverse :: splitAtPoints [] cs else splitAtPoints (c :: part) cs

/-- The member names of the path. -/
def segments (p : FieldPath) : List String :=
  (((splitAtPoints [] p.raw.toList).map trimmed).filter fun cs => !cs.isEmpty).map String.ofList

/-- Whether the path names no member at all. -/
def isEmpty (p : FieldPath) : Bool := p.segments.isEmpty

/-- The path of some member names. -/
def ofSegments (names : List String) : FieldPath := ⟨".".intercalate names⟩

end FieldPath

/-! ## Sorts -/

/-- Direction of a sort. -/
inductive SortDirection where
  | ascending
  | descending
deriving DecidableEq, Inhabited

/-- A request to sort a sequence. -/
structure SortSpec where
  field : Option FieldPath
  direction : SortDirection
deriving DecidableEq, Inhabited

namespace SortSpec

/-- Sorts by a field from least to greatest. -/
def ascending (field : FieldPath) : SortSpec := ⟨some field, .ascending⟩

/-- Sorts by a field from greatest to least. -/
def descending (field : FieldPath) : SortSpec := ⟨some field, .descending⟩

/-- Reverses the order there is. -/
def reversed : SortSpec := ⟨none, .descending⟩

end SortSpec

/-! ## Pages -/

/-- A request for a page of a sequence. -/
structure PageSpec where
  page : Option Int64
  size : Option Int64
deriving DecidableEq, Inhabited

namespace PageSpec

/-- The request for everything. -/
def all : PageSpec := ⟨none, none⟩

/-- How many elements stand in front of the page; without a number or a size there are none. -/
def skip (p : PageSpec) : Int64 :=
  match p.page, p.size with
  | some page, some size => saturate ((saturate (page.toInt * size.toInt)).toInt - size.toInt)
  | _, _ => 0

/-- How many elements the page has at most; a size that is not positive sets no limit. -/
def take (p : PageSpec) : Option Int64 := p.size.filter (0 < ·)

/-- Whether the request leaves every sequence as it is. -/
def isNoop (p : PageSpec) : Bool := p.skip == 0 && p.take.isNone

end PageSpec

end TypedQuery
