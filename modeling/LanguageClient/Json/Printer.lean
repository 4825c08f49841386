import LanguageClient.Json.Basic

/-!
The two written forms of JSON: `compact`, without any space, for messages, and `pretty`, with one
item a line and an indentation of two spaces, for reports.
-/
namespace LanguageClient.Json

def hexDigit (n : Nat) : Char := (Nat.toDigits 16 n).headD '0'

/-- The written form of one character inside a quoted text. Control characters are escaped, by a
letter where there is one; everything else but the quote and the backslash stands for itself. -/
def quoteChar (c : Char) : List Char :=
  if c = '"' then ['\\', '"']
  else if c = '\\' then ['\\', '\\']
  else if c = '\n' then ['\\', 'n']
  else if c = '\r' then ['\\', 'r']
  else if c = '\t' then ['\\', 't']
  else if c.toNat = 8 then ['\\', 'b']
  else if c.toNat = 12 then ['\\', 'f']
  else if c.toNat < 32 then
    ['\\', 'u', '0', '0', hexDigit (c.toNat / 16), hexDigit (c.toNat % 16)]
  else [c]

def quote (s : String) : String :=
  String.ofList ('"' :: (s.toList.flatMap quoteChar ++ ['"']))

def Number.text : Number → String
  | .whole n => toString n.val
  | .double x => x.text

mutual

def compact : Json → String
  | .null => "null"
  | .bool true => "true"
  | .bool false => "false"
  | .number n => n.text
  | .string s => quote s
  | .array items => "[" ++ compactItems items ++ "]"
  | .object members => "\x7b" ++ compactMembers members ++ "\x7d"
termination_by structural j => j

def compactItems : List Json → String
  | [] => ""
  | [j] => compact j
  | j :: rest => compact j ++ "," ++ compactItems rest
termination_by structural items => items

def compactMembers : List (String × Json) → String
  | [] => ""
  | [(k, j)] => quote k ++ ":" ++ compact j
  | (k, j) :: rest => quote k ++ ":" ++ compact j ++ "," ++ compactMembers rest
termination_by structural members => members

end

def breakLine (level : Nat) : String :=
  String.ofList ('\n' :: List.replicate (2 * level) ' ')

mutual

def prettyAt : (level : Nat) → Json → String
  | _, .null => "null"
  | _, .bool true => "true"
  | _, .bool false => "false"
  | _, .number n => n.text
  | _, .string s => quote s
  | _, .array [] => "[]"
  | _, .object [] => "\x7b\x7d"
  | level, .array items => "[" ++ prettyItems (level + 1) items ++ breakLine level ++ "]"
  | level, .object members =>
    "\x7b" ++ prettyMembers (level + 1) members ++ breakLine level ++ "\x7d"
termination_by structural _ j => j

def prettyItems : (level : Nat) → List Json → String
  | _, [] => ""
  | level, [j] => breakLine level ++ prettyAt level j
  | level, j :: rest => breakLine level ++ prettyAt level j ++ "," ++ prettyItems level rest
termination_by structural _ items => items

def prettyMembers : (level : Nat) → List (String × Json) → String
  | _, [] => ""
  | level, [(k, j)] => breakLine level ++ quote k ++ ": " ++ prettyAt level j
  | level, (k, j) :: rest =>
    breakLine level ++ quote k ++ ": " ++ prettyAt level j ++ "," ++ prettyMembers level rest
termination_by structural _ members => members

end

def pretty (j : Json) : String := prettyAt 0 j

end LanguageClient.Json
