import LanguageClient.Toml.Scalar

/-!
Reading TOML documents. A document is read line by line; the table that the last header names is
kept apart and put in its place when the next header comes.
-/
namespace LanguageClient.Toml

def skipComment (cs : List Char) : List Char := cs.dropWhile isShown

def endLine? (cs : List Char) : Option (List Char) :=
  let rest := match skipSpaces cs with
    | '#' :: rest => skipComment rest
    | rest => rest
  match rest with
  | [] => some []
  | rest => newline? rest

def skipLines : (fuel : Nat) → List Char → Option (List Char)
  | 0, cs => some cs
  | fuel + 1, cs =>
    match skipSpaces cs with
    | '#' :: rest => (newline? (skipComment rest)).bind (skipLines fuel)
    | '\n' :: rest => skipLines fuel rest
    | '\r' :: rest => (newline? ('\r' :: rest)).bind (skipLines fuel)
    | rest => some rest

private def skipAllLines (cs : List Char) : Option (List Char) := skipLines (cs.length + 1) cs

private def word? (word : String) (value : Toml) (cs : List Char) : Option (Toml × List Char) :=
  if cs.take word.length = word.toList then some (value, cs.drop word.length) else none

mutual

def readValue : (fuel depth : Nat) → List Char → Option (Toml × List Char)
  | 0, _, _ => none
  | _, _, [] => none
  | fuel + 1, depth, c :: rest =>
    if c = '"' || c = '\'' then (readString (c :: rest)).map fun (s, r) => (.string s, r)
    else if c = '[' then
      match depth with
      | 0 => none
      | depth + 1 => (readItems fuel depth rest).map fun (items, r) => (.array items, r)
    else if c = '\x7b' then
      match depth with
      | 0 => none
      | depth + 1 =>
        match skipSpaces rest with
        | '\x7d' :: rest => some (.table [], rest)
        | _ => (readPairs fuel depth [] rest).map fun (entries, r) =>
            (.table (Node.entriesToToml entries), r)
    else if c = 't' then word? "true" (.boolean true) (c :: rest)
    else if c = 'f' then word? "false" (.boolean false) (c :: rest)
    else readDateTime (c :: rest) <|> readFloat (c :: rest) <|> readInteger (c :: rest)

def readItems : (fuel depth : Nat) → List Char → Option (List Toml × List Char)
  | 0, _, _ => none
  | fuel + 1, depth, cs => do
    match ← skipAllLines cs with
    | ']' :: rest => pure ([], rest)
    | cs =>
      let (item, rest) ← readValue fuel depth cs
      match ← skipAllLines rest with
      | ',' :: rest =>
        let (items, rest) ← readItems fuel depth rest
        pure (item :: items, rest)
      | ']' :: rest => pure ([item], rest)
      | _ => none

def readPairs : (fuel depth : Nat) → Entries → List Char → Option (Entries × List Char)
  | 0, _, _, _ => none
  | fuel + 1, depth, entries, cs => do
    let (path, rest) ← readPath cs
    match rest with
    | '=' :: rest =>
      let (value, rest) ← readValue fuel depth (skipSpaces rest)
      let entries ← entries.assign path value
      match skipSpaces rest with
      | ',' :: rest => readPairs fuel depth entries rest
      | '\x7d' :: rest => pure (entries, rest)
      | _ => none
    | _ => none

end

/-- A document while it is being read: the tables that are complete, and the one that is being
written with its path; `isItem` tells that it is an item of an array. -/
structure Draft where
  root : Entries
  path : List String
  isItem : Bool
  current : Entries

namespace Draft

def empty : Draft := ⟨[], [], false, []⟩

def place (d : Draft) : Option Entries :=
  match d.path.getLast? with
  | none => some d.current
  | some key =>
    (Entries.update false (fun _ entries =>
      match Table.get? entries key with
      | none =>
        some (entries.put key
          (if d.isItem then .tables [d.current] else .table false false d.current), ())
      | some (.tables items) =>
        if d.isItem then some (entries.put key (.tables (items ++ [d.current])), ()) else none
      | some _ => none) d.path.dropLast false d.root).map Prod.fst

def takeHeadless (root : Entries) (path : List String) : Option (Entries × Entries) :=
  match path.getLast? with
  | none => none
  | some key =>
    Entries.update false (fun _ entries =>
      match Table.get? entries key with
      | none => some (entries, [])
      | some (.table false true inner) => some (entries.filter fun e => e.1 ≠ key, inner)
      | some _ => none) path.dropLast false root

def beginTable (d : Draft) (path : List String) : Option Draft := do
  let root ← d.place
  let (root, current) ← takeHeadless root path
  pure ⟨root, path, false, current⟩

def beginItem (d : Draft) (path : List String) : Option Draft := do
  let root ← d.place
  let key ← path.getLast?
  let (root, ()) ← Entries.update false (fun _ entries =>
    match Table.get? entries key with
    | none => some (entries, ())
    | some (.tables _) => some (entries, ())
    | some _ => none) path.dropLast false root
  pure ⟨root, path, true, []⟩

def assign (d : Draft) (path : List String) (value : Toml) : Option Draft := do
  let current ← d.current.assign path value
  pure { d with current := current }

end Draft

def readHeader (d : Draft) : List Char → Option (Draft × List Char)
  | '[' :: '[' :: cs => do
    let (path, rest) ← readPath cs
    match rest with
    | ']' :: ']' :: rest => pure (← d.beginItem path, ← endLine? rest)
    | _ => none
  | '[' :: cs => do
    let (path, rest) ← readPath cs
    match rest with
    | ']' :: rest => pure (← d.beginTable path, ← endLine? rest)
    | _ => none
  | _ => none

def readAssignment (d : Draft) (cs : List Char) : Option (Draft × List Char) := do
  let (path, rest) ← readPath cs
  match rest with
  | '=' :: rest =>
    let (value, rest) ← readValue (2 * rest.length + 2) (depthLimit - 1) (skipSpaces rest)
    let rest ← endLine? rest
    pure (← d.assign path value, rest)
  | _ => none

def readLines : (fuel : Nat) → Draft → List Char → Option Draft
  | 0, _, _ => none
  | fuel + 1, d, cs =>
    match skipSpaces cs with
    | [] => some d
    | '[' :: rest => do
      let (d, rest) ← readHeader d ('[' :: rest)
      readLines fuel d rest
    | c :: rest =>
      if c = '#' || c = '\n' || c = '\r' then do readLines fuel d (← endLine? (c :: rest))
      else do
        let (d, rest) ← readAssignment d (c :: rest)
        readLines fuel d rest

/-- Reads a document. A mark of the byte order at its start is passed over. -/
def parse? (text : String) : Option Toml := do
  let cs := match text.toList with
    | c :: rest => if c.toNat = 0xFEFF then rest else c :: rest
    | [] => []
  let d ← readLines (cs.length + 1) .empty cs
  let root ← d.place
  pure (.table (Node.entriesToToml root))

end LanguageClient.Toml
