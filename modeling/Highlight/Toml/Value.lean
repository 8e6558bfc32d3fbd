/-!
# TOML values

The configuration file and grammar files are TOML documents.  A document is a table: keys mapped
to strings, integers, floats, booleans, date-times, arrays and tables.  Only strings, integers,
arrays and tables are ever read back; floats and date-times are kept as their text.

A table's entries are listed in the byte order of their keys, the order in which a document's
keys are visited, whatever the order they were written in.
-/

namespace Highlight.Toml

inductive Value where
  | string (s : String)
  | integer (i : Int)
  | float (text : String)
  | boolean (b : Bool)
  | datetime (text : String)
  | array (items : List Value)
  | table (entries : List (String × Value))
  deriving Inhabited

/-- A table: its entries in key order. -/
abbrev Table := List (String × Value)

namespace Value

def asString? : Value → Option String
  | string s => some s
  | _ => none

def asInteger? : Value → Option Int
  | integer i => some i
  | _ => none

def asArray? : Value → Option (List Value)
  | array items => some items
  | _ => none

def asTable? : Value → Option Table
  | table entries => some entries
  | _ => none

end Value

def Table.get? (t : Table) (k : String) : Option Value := (t.find? (·.1 == k)).map (·.2)

/-- Entries in the byte order of their keys (the order of code points, which UTF-8 keeps). -/
def sortEntries {α : Type} (es : List (String × α)) : List (String × α) :=
  es.mergeSort fun a b => decide (a.1 ≤ b.1)

end Highlight.Toml
