import BlobTree.Number.Decimal

/-!
# BlobTree.Settings.Value

Settings before they are checked: whatever a document or a caller holds. Nothing is known of a
value but its kind and, for a record, the values under its names.
-/

namespace BlobTree

inductive Value where
  | absent
  | null
  | flag (b : Bool)
  | number (n : Number)
  | text (s : String)
  | list (items : List Value)
  /-- Named values; of two with one name the later counts. -/
  | record (fields : List (String × Value))
  /-- A date or a time; no setting is one, so which does not matter. -/
  | date
  /-- Bytes; no setting is bytes, so which do not matter. -/
  | bytes
  deriving Inhabited

namespace Value

def kindName : Value → String
  | .absent => "undefined"
  | .null => "null"
  | .flag _ => "boolean"
  | .number .nan => "nan"
  | .number _ => "number"
  | .text _ => "string"
  | .list _ => "array"
  | .record _ | .bytes => "object"
  | .date => "date"

/-- The value under a name, `absent` if there is none. -/
def field (fields : List (String × Value)) (name : String) : Value :=
  ((fields.reverse.find? (·.1 = name)).map (·.2)).getD .absent

end Value
end BlobTree
