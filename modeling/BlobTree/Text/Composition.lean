import BlobTree.Text.CombiningClass
import BlobTree.Text.Decomposition

/-!
# BlobTree.Text.Composition

The form in which texts of one meaning are one text: characters are taken apart, marks that do not
touch each other are put into the order of their classes, and what can be joined is joined again.

* `Composition.composed`: that form of a text.
-/

namespace BlobTree
namespace Composition

/-- Puts a mark before marks in order, past those of lesser classes. -/
def insertMark (n : Nat) : List Nat → List Nat
  | [] => [n]
  | m :: rest =>
    if CombiningClass.of m ≠ 0 ∧ CombiningClass.of m < CombiningClass.of n then
      m :: insertMark n rest
    else n :: m :: rest

/-- The marks after each letter in the order of their classes. -/
def ordered (s : List Nat) : List Nat :=
  s.foldr insertMark []

def joined? (a b : Nat) : Option Nat :=
  Hangul.joined? a b <|>
    (Decomposition.Table.canonical.find? fun r =>
      r.image = [a, b] && !CharTable.has Decomposition.Table.neverJoined r.first).map (·.first)

/-- Joins marks to their letter. `marks` (backwards) stand after the letter already; a mark is
joined to it unless one of its class or a greater one stands between. -/
def joinFrom (letter : Nat) (marks : List Nat) : List Nat → List Nat
  | [] => letter :: marks.reverse
  | n :: rest =>
    let cls := CombiningClass.of n
    let reaches := marks.head?.all fun m => CombiningClass.of m < cls
    match if reaches then joined? letter n else none with
    | some l => joinFrom l marks rest
    | none =>
      if cls = 0 then letter :: marks.reverse ++ joinFrom n [] rest
      else joinFrom letter (n :: marks) rest

/-- Joins what can be joined. Marks without a letter stay. -/
def join (s : List Nat) : List Nat :=
  let lone := s.takeWhile (CombiningClass.of · ≠ 0)
  match s.drop lone.length with
  | [] => lone
  | letter :: rest => lone ++ joinFrom letter [] rest

def composed (s : List Nat) : List Nat :=
  join (ordered (Decomposition.expanded false s))

end Composition
end BlobTree
