import LanguageClient.Json.Basic

/-!
TOML values, and the tables of a TOML document while it is being read. A table may be written in
pieces: by its header, by headers of tables inside it, and by dotted keys. Which piece may follow
which is decided by how the table came to be.
-/
namespace LanguageClient

/-- A TOML value. A float is kept as its decimal digits and a power of ten, if it is a number. -/
inductive Toml where
  | string (s : String)
  | integer (n : Int)
  | decimal (negative : Bool) (digits : Nat) (power : Int)
  | infinite (negative : Bool)
  | notANumber
  | boolean (b : Bool)
  | dateTime (text : String)
  | array (items : List Toml)
  | table (entries : List (String × Toml))
  deriving Inhabited, Repr

namespace Toml

mutual

/-- The value in the form in which settings are decoded. A float becomes null, which no setting
takes either, and a date becomes an object without any known member. -/
def toShape : Toml → Json
  | .string s => .string s
  | .integer n =>
    match Json.Whole.ofInt? n with
    | some w => .whole w
    | none => .null
  | .decimal _ _ _ => .null
  | .infinite _ => .null
  | .notANumber => .null
  | .boolean b => .bool b
  | .dateTime text => .object [("date-time", .string text)]
  | .array items => .array (itemsToShape items)
  | .table entries => .object (entriesToShape entries)
termination_by structural value => value

def itemsToShape : List Toml → List Json
  | [] => []
  | item :: rest => toShape item :: itemsToShape rest
termination_by structural items => items

def entriesToShape : List (String × Toml) → List (String × Json)
  | [] => []
  | (key, value) :: rest => (key, toShape value) :: entriesToShape rest
termination_by structural entries => entries

end

/-- What stands under a key of a table that is being read: a value, which is complete; a table; or
the tables of an array, of which the last is being written. Of a table it is kept whether dotted
keys brought it about, and whether it still lacks a header of its own. -/
inductive Node where
  | value (v : Toml)
  | table (dotted headless : Bool) (entries : List (String × Node))
  | tables (items : List (List (String × Node)))

abbrev Entries := List (String × Node)

namespace Node

mutual

def toToml : Node → Toml
  | .value v => v
  | .table _ _ entries => .table (entriesToToml entries)
  | .tables items => .array (tablesToToml items)
termination_by structural node => node

def entriesToToml : List (String × Node) → List (String × Toml)
  | [] => []
  | (key, node) :: rest => (key, toToml node) :: entriesToToml rest
termination_by structural entries => entries

def tablesToToml : List (List (String × Node)) → List Toml
  | [] => []
  | entries :: rest => .table (entriesToToml entries) :: tablesToToml rest
termination_by structural items => items

end

end Node

namespace Entries

def put : Entries → String → Node → Entries
  | [], key, node => [(key, node)]
  | (k, n) :: rest, key, node =>
    if k = key then (key, node) :: rest else (k, n) :: put rest key node

/-- Works on the table at the end of a path and brings about the tables that are missing on the
way. Dotted keys lead only through tables without a header. The work is told whether dotted keys
brought the table about. -/
def update {α : Type} (byDots : Bool) (work : (dotted : Bool) → Entries → Option (Entries × α)) :
    (path : List String) → (dotted : Bool) → Entries → Option (Entries × α)
  | [], dotted, entries => work dotted entries
  | key :: path, _, entries =>
    match Table.get? entries key with
    | none => do
      let (inner, a) ← update byDots work path byDots []
      pure (put entries key (.table byDots true inner), a)
    | some (.value _) => none
    | some (.table dotted headless inner) =>
      if byDots && !headless then none
      else do
        let (inner, a) ← update byDots work path dotted inner
        pure (put entries key (.table dotted headless inner), a)
    | some (.tables items) =>
      match items.getLast? with
      | none => none
      | some last => do
        let (last, a) ← update byDots work path false last
        pure (put entries key (.tables (items.dropLast ++ [last])), a)

/-- Gives a value to a key that has none; the key is given by its path. A path of one key belongs
in a table that was not brought about by dots, a longer one in one that was. -/
def assign (entries : Entries) (path : List String) (value : Toml) : Option Entries :=
  match path.getLast? with
  | none => none
  | some key =>
    let way := path.dropLast
    (update true (fun dotted entries =>
      if dotted = way.isEmpty || (Table.get? entries key).isSome then none
      else some (put entries key (.value value), ())) way false entries).map Prod.fst

end Entries

end Toml

end LanguageClient
