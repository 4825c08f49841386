import LanguageClient.Frame

/-!
The language of shell scripts. A text of a script is a list of bytes, and a byte is written as the
character with its number; so the length of a text is its length in bytes, and any bytes can pass
through a script.
-/
namespace LanguageClient.Shell

/-- A text of a script: characters below 256, each for one byte. -/
abbrev Text := List Char

def Text.ofBytes (bytes : Frame.Bytes) : Text := bytes.map fun b => Char.ofNat b.toNat

def Text.toBytes (text : Text) : Frame.Bytes := text.map fun c => UInt8.ofNat c.toNat

def Text.ofString (s : String) : Text := .ofBytes (Frame.bytesOf s)

def Text.string (text : Text) : String :=
  (Frame.textOf? text.toBytes).getD (String.ofList text)

inductive Direction where
  | fromFile
  | toFile
  | overFile
  | toEnd
  | fromAndToFile
  | duplicate
  | fromText
  deriving DecidableEq, Repr

inductive Fallback where
  | use
  | assign
  | fail
  | alternative
  deriving DecidableEq, Repr

mutual

inductive Piece where
  | text (quoted : Bool) (chars : Text)
  | home
  | parameter (quoted : Bool) (name : String) (use : Use)
  | output (quoted : Bool) (command : Command)
  | sum (quoted : Bool) (expression : List Piece)

inductive Use where
  | plain
  | length
  | fallback (fallback : Fallback) (emptyCounts : Bool) (word : List Piece)
  | without (atEnd longest : Bool) (pattern : List Piece)

inductive Redirection where
  | mk (descriptor : Nat) (direction : Direction) (target : List Piece)

inductive Command where
  | nothing
  | simple (assignments : List (String × List Piece)) (words : List (List Piece))
      (redirections : List Redirection)
  | redirected (command : Command) (redirections : List Redirection)
  | sequence (first second : Command)
  | background (command : Command)
  | conditional (ifSuccess : Bool) (first second : Command)
  | negated (command : Command)
  | pipeline (commands : List Command)
  | loop (whileSuccess : Bool) (condition body : Command)
  | each (name : String) (words : Option (List (List Piece))) (body : Command)
  | choice (condition whenTrue whenFalse : Command)
  | select (subject : List Piece) (arms : List (List (List Piece) × Command))
  | define (name : String) (body : Command)
  | subshell (body : Command)

end

abbrev Word := List Piece

instance : Inhabited Command := ⟨.nothing⟩

end LanguageClient.Shell
