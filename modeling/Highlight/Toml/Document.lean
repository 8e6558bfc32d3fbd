import Highlight.Toml.Value

/-!
# Building a TOML document

While a document is read, its tables remember how they came to be, because TOML lets a table be
defined only once:

* a table made on the way to a header's table (`a` for `[a.b]`) is *implicit*, and a later `[a]`
  header may still define it;
* a table made by a dotted key (`a.b = 1` makes `a`) is implicit and *dotted*: more dotted keys
  may add to it, but no header may define it;
* a table defined by a header is neither, and dotted keys cannot reach into it;
* an array of tables (`[[a]]`) gets a new table for each header, and paths through it lead into
  its last table;
* everything given as a value, inline tables and arrays included, is closed.

The document is a tree of `Node`s.  Each step finds its table by `descend` from the root, making
implicit tables where the path has none, and fails where TOML forbids the step.  `Node.freeze`
turns the finished tree into a `Value` with every table in key order.
-/

namespace Highlight.Toml

inductive Node where
  /-- A value given in the text; closed. -/
  | leaf (v : Value)
  /-- A table with its entries, whether it is implicit and whether dotted keys made it. -/
  | table (entries : List (String × Node)) (implicit dotted : Bool)
  /-- An array of tables, the last one being the one that headers and keys lead into. -/
  | tables (items : List (List (String × Node)))
  deriving Inhabited

abbrev Entries := List (String × Node)

namespace Entries

def get? (es : Entries) (k : String) : Option Node := (es.find? (·.1 == k)).map (·.2)

def put (es : Entries) (k : String) (n : Node) : Entries :=
  if es.any (·.1 == k) then es.map fun e => if e.1 == k then (k, n) else e else es ++ [(k, n)]

end Entries

structure Tab where
  entries : Entries
  implicit : Bool := false
  dotted : Bool := false

def Tab.node (t : Tab) : Node := .table t.entries t.implicit t.dotted

/-- Applies `f` to the table at `path` below `t`: missing tables on the way are made implicit
(and dotted, for the path of a dotted key), an array of tables leads into its last table, and a
value or, for a dotted key, a table defined by a header stops the path. -/
def descend (dotted : Bool) (f : Tab → Except String Tab) : List String → Tab → Except String Tab
  | [], t => f t
  | k :: ks, t =>
    match t.entries.get? k with
    | none => do
      let c ← descend dotted f ks { entries := [], implicit := true, dotted := dotted }
      pure { t with entries := t.entries.put k c.node }
    | some (.leaf _) => throw s!"cannot extend a value with `{k}`"
    | some (.tables items) =>
      match items.getLast? with
      | none => throw s!"empty array of tables `{k}`"
      | some last => do
        let c ← descend dotted f ks { entries := last }
        pure { t with entries := t.entries.put k (.tables (items.dropLast ++ [c.entries])) }
    | some (.table es imp dot) =>
      if dotted && !imp then throw s!"table `{k}` is already defined"
      else do
        let c ← descend dotted f ks { entries := es, implicit := imp, dotted := dot }
        pure { t with entries := t.entries.put k c.node }

namespace Tab

/-- Sets `path.key = v` in the table: a plain key only in a table not made by dotted keys, a
dotted key only through tables dotted keys made, and never a key that is already there. -/
def assign (path : List String) (key : String) (v : Value) (t : Tab) : Except String Tab :=
  descend true (fun t =>
    if t.dotted == path.isEmpty then throw s!"duplicate key `{key}`"
    else match t.entries.get? key with
      | some _ => throw s!"duplicate key `{key}`"
      | none => pure { t with entries := t.entries.put key (.leaf v) }) path t

/-- Defines the table of a `[path.key]` header: new, or one that is implicit and not dotted. -/
def defineTable (path : List String) (key : String) (root : Tab) : Except String Tab :=
  descend false (fun parent =>
    match parent.entries.get? key with
    | none => pure { parent with entries := parent.entries.put key (Tab.node { entries := [] }) }
    | some (.table es true false) =>
      pure { parent with entries := parent.entries.put key (Tab.node { entries := es }) }
    | some _ => throw s!"table `{key}` is already defined") path root

/-- Adds a table to the array of a `[[path.key]]` header, making the array when there is none. -/
def appendTable (path : List String) (key : String) (root : Tab) : Except String Tab :=
  descend false (fun parent =>
    match parent.entries.get? key with
    | none => pure { parent with entries := parent.entries.put key (.tables [[]]) }
    | some (.tables items) => pure { parent with entries := parent.entries.put key (.tables (items ++ [[]])) }
    | some _ => throw s!"`{key}` is not an array of tables") path root

def assignAt (here : List String) (path : List String) (key : String) (v : Value) (root : Tab) :
    Except String Tab :=
  descend false (assign path key v) here root

end Tab

mutual

def Node.freeze : Node → Value
  | .leaf v => v
  | .table es _ _ => .table (sortEntries (freezeEntries es))
  | .tables items => .array (freezeTables items)

def freezeEntries : List (String × Node) → List (String × Value)
  | [] => []
  | (k, n) :: rest => (k, n.freeze) :: freezeEntries rest

def freezeTables : List (List (String × Node)) → List Value
  | [] => []
  | es :: rest => .table (sortEntries (freezeEntries es)) :: freezeTables rest

end

end Highlight.Toml
