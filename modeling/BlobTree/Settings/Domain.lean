import BlobTree.Settings.Domain.Excluded
import BlobTree.Text.CaseFold
import BlobTree.Text.Composition
import BlobTree.Text.Direction
import BlobTree.Text.Joining
import BlobTree.Text.Mark
import BlobTree.Text.Punycode

/-!
# BlobTree.Settings.Domain

Domain names of any characters. A name counts by a form without case and without variants of
characters, in which the stops of all scripts are dots. A label of that form has to be one that
can be read: it does not begin with a mark, joiners stand where they join something, and
directions are not mixed. A label that begins with `xn--` stands for one beyond ASCII and has to
stand for it in that form.

* `Domain.form?`: the form of a name. `Domain.isLabel`: whether a label of that form is allowed.
-/

namespace BlobTree
namespace Domain

open CharTable (Row rows)

/-- Characters that do not count: soft hyphens, spaces without width, selectors of variants. -/
def ignored : List Row :=
  rows "AD 34F 180B-180D 180F 200B 2060 2064 FE00-FE0F FEFF 1BCA0-1BCA3 E0100-E01EF"

def dot : Nat := '.'.toNat

/-- What a character counts as. Two small letters that capitals do not tell from others keep their
form. -/
def mapped (n : Nat) : List Nat :=
  if n < 0x80 then CaseFold.of n
  else if n = 0xDF ∨ n = 0x3C2 then [n]
  else if n = 0x3002 ∨ n = 0xFF61 then [dot]
  else if CharTable.has ignored n then []
  else
    let bare := Decomposition.expanded true ((Decomposition.expanded false [n]).flatMap CaseFold.of)
    Decomposition.expanded true (bare.flatMap CaseFold.of)

/-- The form in which a name counts, if it holds no excluded character. -/
def form? (s : List Nat) : Option (List Nat) :=
  if s.any isExcluded then none else some (Composition.composed (s.flatMap mapped))

/-- What the first joiner in a label says of it: with a vowel killed before it, the label is
allowed; else it has to stand between letters that join. `before` (backwards) is what has been
passed. -/
def joinersFit? (before : List Nat) : List Nat → Option Bool
  | [] => none
  | n :: rest =>
    let killed := before.head?.any Joining.killsVowel
    if n = 0x200C then
      some (killed || (before.any Joining.joinsNext && rest.any Joining.joinsPrevious))
    else if n = 0x200D then some killed
    else joinersFit? (n :: before) rest

/-- Whether a label with letters from right to left has no others, does not mix the two kinds of
numbers and ends, marks apart, in a letter or a number. -/
def directionsFit (s : List Nat) : Bool :=
  let all := s.map Direction.of
  let ds := (all.reverse.dropWhile (· = .mark)).reverse
  !all.any Direction.isRight ||
    (ds.all (· ≠ .left) && !(ds.contains .number && ds.contains .arabicNumber) &&
      ds.getLast?.any fun d => d.isRight || d = .number)

def isReadable (s : List Nat) : Bool :=
  !s.isEmpty && !s.contains dot && !s.head?.any Mark.isMark &&
    (joinersFit? [] s).getD (directionsFit s)

def isAscii (s : List Nat) : Bool :=
  s.all (· < 0x80)

/-- How a label begins that stands for one beyond ASCII. -/
def encoding : List Nat :=
  "xn--".toList.map Char.toNat

/-- Whether a label of a name in the form that counts is allowed. -/
def isLabel (s : List Nat) : Bool :=
  if encoding.isPrefixOf s then
    let rest := s.drop encoding.length
    isAscii s && !encoding.isPrefixOf rest &&
      (Punycode.decode? (rest.map Char.ofNat)).any fun name =>
        let name := name.map Char.toNat
        form? name = some name && isReadable name
  else isAscii s || isReadable s

/-- The form of a name whose labels are allowed, if they all are. -/
def allowed? (s : List Nat) : Option (List Nat) :=
  (form? s).filter fun s => (s.splitOn dot).all fun l => l.isEmpty || isLabel l

end Domain
end BlobTree
