import BlobTree.Text.Units

/-!
# BlobTree.Text.Blank

Blank characters: the Unicode space separators, the control characters tab to carriage return,
the line and paragraph separators and the byte order mark. `U+0085` is not blank.
-/

namespace BlobTree

def Text.blanks : List Nat :=
  [0x09, 0x0A, 0x0B, 0x0C, 0x0D, 0x20, 0xA0, 0x1680, 0x2000, 0x2001, 0x2002, 0x2003, 0x2004,
    0x2005, 0x2006, 0x2007, 0x2008, 0x2009, 0x200A, 0x2028, 0x2029, 0x202F, 0x205F, 0x3000, 0xFEFF]

def Text.isBlank (c : Char) : Bool :=
  Text.blanks.contains c.toNat

def Text.trimStart (p : Char → Bool) (s : Name) : Name :=
  s.dropWhile p

def Text.trimEnd (p : Char → Bool) (s : Name) : Name :=
  (s.reverse.dropWhile p).reverse

def Text.trim (s : Name) : Name :=
  trimEnd isBlank (trimStart isBlank s)

/-- Lower case of the letters `A` to `Z`. No other character has a lower-case form in which one
of the letters of `true` and `false` occurs. -/
def Text.lower (s : Name) : Name :=
  s.map Char.toLower

end BlobTree
