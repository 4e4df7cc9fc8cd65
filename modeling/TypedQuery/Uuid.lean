import TypedQuery.Json.Reader
import TypedQuery.Number.Integer
import TypedQuery.Text.Spelling

/-!
# Universally unique identifiers

An identifier is a number of 128 bits, written as 32 hexadecimal digits in five groups. It is read
in its written form, with the digits alone, in braces, or behind `urn:uuid:`.
-/

namespace TypedQuery

/-- A number of 128 bits. -/
structure Uuid where
  bits : BitVec 128
deriving DecidableEq, Inhabited

namespace Uuid

/-- The order of the numbers, which is that of their written forms. -/
def cmp (a b : Uuid) : Ordering := compare a.bits.toNat b.bits.toNat

/-- Five groups of digits with hyphens between them. -/
def text (u : Uuid) : String :=
  let ds := Number.zeroPadded 32 (Text.hexDigits u.bits.toNat)
  String.ofList (ds.take 8 ++ ['-'] ++ (ds.drop 8).take 4 ++ ['-'] ++ (ds.drop 12).take 4 ++ ['-'] ++
    (ds.drop 16).take 4 ++ ['-'] ++ ds.drop 20)

/-- The identifier of 32 hexadecimal digits. -/
def ofDigits? (cs : List Char) : Option Uuid :=
  if cs.length = 32 then
    (cs.mapM Json.hexValue?).map fun ds =>
      ⟨BitVec.ofNat 128 (ds.foldl (fun n d => 16 * n + d) 0)⟩
  else none

/-- The identifier of 32 digits in groups. -/
def ofGroups? (cs : List Char) : Option Uuid :=
  if cs.length = 36 && [8, 13, 18, 23].all (fun i => cs[i]? == some '-') then
    ofDigits? (cs.take 8 ++ (cs.drop 9).take 4 ++ (cs.drop 14).take 4 ++ (cs.drop 19).take 4 ++
      cs.drop 24)
  else none

/-- Reads an identifier in any of its forms. -/
def read? (cs : List Char) : Option Uuid :=
  if cs.length = 38 && cs.head? == some '\x7b' && cs.getLast? == some '\x7d' then
    ofGroups? ((cs.drop 1).take 36)
  else if cs.length = 45 && (cs.take 9).map Char.toLower == "urn:uuid:".toList then
    ofGroups? (cs.drop 9)
  else (ofDigits? cs).or (ofGroups? cs)

end Uuid

end TypedQuery
