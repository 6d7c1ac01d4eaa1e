import BlobTree.Number.Numeral
import BlobTree.Yaml.Graph
import BlobTree.Yaml.Moment

/-!
# BlobTree.Yaml.Meaning

What the text of a plain scalar stands for, and what a tag makes of a value. A plain scalar is
nothing, a truth value, a number, a time or the mark of a merge if it is written as one, and else
a text. A number that is too great for one with 53 significant bits is written as a text.

* `implicit?`: the meaning of a plain scalar. `tagged`: the value under a tag; there is none if
  the tag is unknown or does not fit.
-/

namespace BlobTree
namespace Yaml

inductive Kind where
  | scalar
  | sequence
  | mapping
  deriving DecidableEq, Inhabited

/-- The full name of one of the standard tags. -/
def standardTag (name : String) : Name :=
  "tag:yaml.org,2002:".toList ++ name.toList

/-- The tag of the key under which other mappings are merged in. -/
def mergeTag : Name :=
  standardTag "merge"

def isNull (s : Name) : Bool :=
  ["~", "null", "Null", "NULL"].any (·.toList = s)

def bool? (s : Name) : Option Bool :=
  if ["true", "True", "TRUE"].any (·.toList = s) then some true
  else if ["false", "False", "FALSE"].any (·.toList = s) then some false
  else none

/-- A number within the range of rounding. -/
def ranged? (n : Number) : Option Number :=
  if n = .posInf ∨ n = .negInf then none else some n

/-- A whole number: an optional sign, then decimal digits or `0b`, `0o`, `0x` and digits. -/
def int? (s : Name) : Option Number :=
  let (negative, r) := Number.splitSign s
  let value? := match r with
    | '0' :: 'b' :: ds => Number.natOf? 2 ds
    | '0' :: 'o' :: ds => Number.natOf? 8 ds
    | '0' :: 'x' :: ds => Number.natOf? 16 ds
    | ds => Number.natOf? 10 ds
  value?.bind fun n => ranged? (Number.nearest (if negative then -n else n))

/-- A decimal number with digits before the point, or after it and then without a sign; or an
infinity, or the value that is no number. -/
def float? (s : Name) : Option Number :=
  let (negative, r) := Number.splitSign s
  if [".inf", ".Inf", ".INF"].any (·.toList = r) then some (if negative then .negInf else .posInf)
  else if [".nan", ".NaN", ".NAN"].any (·.toList = s) then some .nan
  else match s with
    | '.' :: _ => (Number.decimalOf? false s).bind ranged?
    | _ => if r.head?.any Char.isDigit then (Number.decimalOf? negative r).bind ranged? else none

/-- The tag and the value of a plain scalar that is not a text. -/
def implicit? (s : Name) : Option (Name × Item) :=
  if isNull s then some (standardTag "null", .null)
  else if let some b := bool? s then some (standardTag "bool", .flag b)
  else if let some n := int? s then some (standardTag "int", .number n)
  else if let some n := float? s then some (standardTag "float", .number n)
  else if let some t := Moment.read? s then some (standardTag "timestamp", .moment t)
  else if s = ['<', '<'] then some (mergeTag, .text "<<")
  else none

namespace Base64

def sextet? (c : Char) : Option Nat :=
  if 'A' ≤ c ∧ c ≤ 'Z' then some (c.toNat - 'A'.toNat)
  else if 'a' ≤ c ∧ c ≤ 'z' then some (c.toNat - 'a'.toNat + 26)
  else if c.isDigit then some (c.toNat - '0'.toNat + 52)
  else if c = '+' then some 62
  else if c = '/' then some 63
  else none

/-- The bytes of sextets, three of four and of a rest as many as are full. Nothing at all stands
for three zeros. -/
def bytes : List Nat → List Nat
  | [] => []
  | [_] => []
  | [a, b] => [(a * 64 + b) / 16 % 256]
  | [a, b, c] => let n := (a * 64 + b) * 64 + c
    [n / 1024 % 256, n / 4 % 256]
  | a :: b :: c :: d :: rest => let n := ((a * 64 + b) * 64 + c) * 64 + d
    n / 65536 % 256 :: n / 256 % 256 :: n % 256 :: bytes rest

/-- The bytes written in a text, in which line breaks do not count and equals signs only to its
length. -/
def read? (s : Name) : Option (List Nat) := do
  let s := s.filter fun c => c ≠ '\n' ∧ c ≠ '\r'
  if s.length % 4 ≠ 0 then none
  else
    let sextets ← (s.filter (· ≠ '=')).mapM sextet?
    return if sextets.isEmpty then [0, 0, 0] else bytes sextets

end Base64

/-- A step that may add collections and may have no result. -/
abbrev Build := StateT Graph Option

namespace Build

def list (items : List Item) : Build Item :=
  modifyGet fun g => let (cell, g) := g.addList items; (.list cell, g)

def record (fields : List (String × Item)) : Build Item :=
  modifyGet fun g => let (cell, g) := g.addRecord fields; (.record cell, g)

def some? (x : Option Item) : Build Item :=
  x.elim failure pure

end Build

open Build

/-- The one pair of a record with one field. -/
def onlyPair? (g : Graph) : Item → Option (String × Item)
  | .record cell =>
    match g.fields cell with
    | [pair] => some pair
    | _ => none
  | _ => none

/-- The value of a scalar's text under a standard tag. -/
def taggedText? (tag : Name) (s : String) : Option Item :=
  let text := s.toList
  if tag = standardTag "str" then some (.text s)
  else if tag = standardTag "null" then if isNull text then some .null else none
  else if tag = standardTag "bool" then (bool? text).map .flag
  else if tag = standardTag "int" then (int? text).map .number
  else if tag = standardTag "float" then (float? text).map .number
  else if tag = standardTag "timestamp" then (Moment.read? text).map .moment
  else if tag = mergeTag then if text = ['<', '<'] then some (.text s) else none
  else if tag = standardTag "binary" then (Base64.read? text).map .bytes
  else none

/-- The value of nothing under a standard tag, if the node is of a kind or of none. -/
def taggedNull (tag : Name) (kind : Option Kind) : Build Item :=
  let fits (k : Kind) := kind.all (· = k)
  if tag = standardTag "str" ∧ fits .scalar then return .text ""
  else if (tag = standardTag "null" ∨ tag = mergeTag) ∧ fits .scalar then return .null
  else if (["seq", "omap", "pairs"].any (standardTag · = tag)) ∧ fits .sequence then list []
  else if (tag = standardTag "map" ∨ tag = standardTag "set") ∧ fits .mapping then record []
  else failure

/-- The value of a list under a standard tag, which the list itself is but for `pairs`. -/
def taggedList (tag : Name) (cell : Nat) : Build Item := do
  let g ← get
  let pairs? := (g.items cell).mapM (onlyPair? g)
  if tag = standardTag "seq" then return .list cell
  else if tag = standardTag "omap" then
    let names := (pairs?.getD []).map (·.1)
    if pairs?.isSome ∧ names.eraseDups.length = names.length then return .list cell else failure
  else if tag = standardTag "pairs" then
    let pairs ← pairs?.elim failure pure
    list (← pairs.mapM fun (name, item) => list [.text name, item])
  else failure

def taggedRecord? (g : Graph) (tag : Name) (cell : Nat) : Option Item :=
  if tag = standardTag "map" ∨
    (tag = standardTag "set" ∧ (g.fields cell).all fun (_, v) => v = .null) then
    some (.record cell)
  else none

/-- The value of a node of some kind under a tag. A value that has a meaning already keeps it
under the tag of texts and fits no other. -/
def tagged (tag : Name) (kind : Option Kind) (v : Item) : Build Item := do
  match v, kind with
  | .null, kind => taggedNull tag kind
  | .text s, some .scalar => some? (taggedText? tag s)
  | .list cell, some .sequence => taggedList tag cell
  | .record cell, some .mapping => some? (taggedRecord? (← get) tag cell)
  | v, some .scalar => if tag = standardTag "str" then return v else failure
  | _, _ => failure

end Yaml
end BlobTree
