import BlobTree.Text.Units

/-!
# BlobTree.Text.Quoted

JSON text for reports: quoted strings and records laid out with two spaces to a level.
-/

namespace BlobTree
namespace Quoted

/-- One character inside quotes. -/
def escape (c : Char) : List Char :=
  match c with
  | '"' => ['\\', '"']
  | '\\' => ['\\', '\\']
  | '\n' => ['\\', 'n']
  | '\r' => ['\\', 'r']
  | '\t' => ['\\', 't']
  | '\x08' => ['\\', 'b']
  | '\x0c' => ['\\', 'f']
  | c =>
    if c.toNat < 0x20 then
      ['\\', 'u', '0', '0', Nat.digitChar (c.toNat / 16), Nat.digitChar (c.toNat % 16)]
    else [c]

def quote (s : String) : String :=
  String.ofList ('"' :: s.toList.flatMap escape ++ ['"'])

inductive Field where
  | text (s : String)
  | count (n : Nat)
  | flag (b : Bool)
  | texts (xs : List String)

/-- Some items in brackets, one to a line at a given depth. -/
def bracketed (opening closing : String) (depth : Nat) (items : List String) : String :=
  let indent (n : Nat) := String.ofList (List.replicate (2 * n) ' ')
  if items.isEmpty then opening ++ closing
  else
    opening ++ "\n" ++
      ",\n".intercalate (items.map (indent (depth + 1) ++ ·)) ++ "\n" ++ indent depth ++ closing

def Field.render (depth : Nat) : Field → String
  | .text s => quote s
  | .count n => toString n
  | .flag b => if b then "true" else "false"
  | .texts xs => bracketed "[" "]" depth (xs.map quote)

def renderRecords (records : List (List (String × Field))) : String :=
  let record (fields : List (String × Field)) :=
    bracketed "\x7b" "\x7d" 1 (fields.map fun (k, v) => quote k ++ ": " ++ v.render 2)
  bracketed "[" "]" 0 (records.map record)

end Quoted
end BlobTree
