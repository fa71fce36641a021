import Courier.Bytes
import Courier.Text.Ascii

/-!
# Header maps

A header map holds several values under one name.  Names are compared without regard to case and
kept in lower case; the values of one name keep their order.
-/

namespace Courier.Http

/-- Header names with their values. -/
structure Headers where
  /-- The fields, each under a lower-case name. -/
  entries : List (String × Bytes)
deriving DecidableEq, Repr

namespace Headers

def empty : Headers := ⟨[]⟩

instance : Inhabited Headers := ⟨empty⟩

/-- All values of a name, in order. -/
def values (headers : Headers) (name : String) : List Bytes :=
  headers.entries.filterMap fun entry => if entry.1 == name then some entry.2 else none

/-- The first value of a name. -/
def get? (headers : Headers) (name : String) : Option Bytes := (headers.values name).head?

/-- Whether a name has a value. -/
def contains (headers : Headers) (name : String) : Bool :=
  headers.entries.any (·.1 == name)

/-- Adds a value after those its name already has. -/
def append (headers : Headers) (name : String) (value : Bytes) : Headers :=
  ⟨headers.entries ++ [(Ascii.lower name, value)]⟩

/-- Drops every value of a name. -/
def erase (headers : Headers) (name : String) : Headers :=
  ⟨headers.entries.filter (·.1 != name)⟩

/-- Makes a value the only one of its name. -/
def insert (headers : Headers) (name : String) (value : Bytes) : Headers :=
  (headers.erase (Ascii.lower name)).append name value

/-- Takes over another map: its names replace the ones held so far, all others stay. -/
def extend (headers other : Headers) : Headers :=
  ⟨headers.entries.filter (fun entry => !other.contains entry.1) ++ other.entries⟩

/-- A map of fields in order of arrival. -/
def ofList (fields : List (String × Bytes)) : Headers :=
  ⟨fields.map fun field => (Ascii.lower field.1, field.2)⟩

/-- The fields sorted by name; the values of one name keep their order. -/
def sorted (headers : Headers) : List (String × Bytes) :=
  headers.entries.mergeSort fun left right => !decide (right.1 < left.1)

end Headers

end Courier.Http
