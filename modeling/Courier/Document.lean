/-!
# Documents

The values of a configuration document, whatever notation it is written in: texts, numbers,
truth values, sequences and tables.  The entries of a table keep their order.
-/

namespace Courier

/-- How a table came into a document. -/
inductive TableOrigin where
  /-- Written under a header of its own. -/
  | header
  /-- Implied by the header of a table inside it. -/
  | implied
  /-- Implied by a dotted key. -/
  | dotted
  /-- Written as a value. -/
  | inline
deriving DecidableEq, Repr

/-- A value of a document. -/
inductive Document where
  /-- No value, in notations that can write it. -/
  | null
  | string (text : String)
  /-- A whole number. -/
  | integer (value : Int)
  /-- A floating-point number. -/
  | float (value : Float)
  /-- A truth value. -/
  | boolean (value : Bool)
  /-- A date, a time or both. -/
  | datetime (text : String)
  /-- A sequence written as a value. -/
  | array (items : List Document)
  /-- A sequence of tables, each under a header of its own. -/
  | tables (items : List Document)
  | table (origin : TableOrigin) (entries : List (String × Document))
deriving Repr, Inhabited

namespace Document

/-- The name of a kind of value. -/
def kindName : Document → String
  | null => "null"
  | string _ => "string"
  | integer _ => "integer"
  | float _ => "float"
  | boolean _ => "boolean"
  | datetime _ => "datetime"
  | array _ => "array"
  | tables _ => "array of tables"
  | table .inline _ => "inline table"
  | table _ _ => "table"

/-- The value under a key. -/
def get? (entries : List (String × Document)) (key : String) : Option Document :=
  (entries.find? (·.1 == key)).map (·.2)

end Document

end Courier
