import LanguageClient.FileTree
import LanguageClient.Posix.Shell.Pattern

/-!
Expanded words and the fields they fall into. Characters that come from an expansion without quotes
separate fields if they are separators: blanks together as one, and every other separator on its
own. A field that is a pattern stands for the paths that it matches, if there are any.
-/
namespace LanguageClient.Shell

/-- Where a character of an expanded word comes from. A loose one comes from an expansion without
quotes. -/
inductive Origin where
  | quoted
  | plain
  | loose
  deriving DecidableEq, Repr

inductive Mark where
  | letter (c : Char) (origin : Origin)
  | quote
  | split
  deriving DecidableEq, Repr

abbrev Expanded := List Mark

abbrev Field := List (Char × Bool)

namespace Expanded

def ofText (origin : Origin) (text : Text) : Expanded := text.map (.letter · origin)

def toText (e : Expanded) : Text :=
  e.filterMap fun mark => match mark with
    | .letter c _ => some c
    | .quote => none
    | .split => some ' '

def toPattern (e : Expanded) : Field :=
  e.filterMap fun mark => match mark with
    | .letter c origin => some (c, origin = .quoted)
    | .quote => none
    | .split => some (' ', true)

private def isBlank (c : Char) : Bool := c = ' ' || c = '\t' || c = '\n'

/-- The fields of a word; `field` is the reversed start of one, and `closed` tells that a separator
which is no blank would belong to the field before. -/
def fieldsFrom (separators : Text) : (field : Option Field) → (closed : Bool) → Expanded → List Field
  | field, _, [] => (field.map List.reverse).toList
  | field, _, .quote :: rest => fieldsFrom separators (some (field.getD [])) false rest
  | field, _, .split :: rest => (field.map List.reverse).toList ++ fieldsFrom separators none false rest
  | field, closed, .letter c origin :: rest =>
    if origin = .loose && separators.contains c then
      if isBlank c then
        (field.map List.reverse).toList ++
          fieldsFrom separators none (closed || field.isSome) rest
      else
        match field with
        | some field => field.reverse :: fieldsFrom separators none false rest
        | none =>
          if closed then fieldsFrom separators none false rest
          else [] :: fieldsFrom separators none false rest
    else fieldsFrom separators (some ((c, origin = .quoted) :: field.getD [])) false rest

def fields (separators : Text) (e : Expanded) : List Field := fieldsFrom separators none false e

end Expanded

namespace Field

def toText (field : Field) : Text := field.map Prod.fst

def isPattern (field : Field) : Bool :=
  field.any fun (c, quoted) => !quoted && (c = '*' || c = '?' || c = '[')

private def steps : (fuel : Nat) → Field → List (Text × Field)
  | 0, _ => []
  | fuel + 1, field =>
    let slashes := field.takeWhile fun p => p.1 = '/'
    let rest := field.drop slashes.length
    let name := rest.takeWhile fun p => p.1 ≠ '/'
    if slashes.isEmpty && name.isEmpty then []
    else (toText slashes, name) :: steps fuel (rest.drop name.length)

private def pathsFrom (files : FileTree) (workingDirectory : String) :
    (path : Text) → List (Text × Field) → List Text
  | path, [] =>
    match files.locate false workingDirectory path.string with
    | .ok ⟨_, some _⟩ => [path]
    | _ => []
  | path, (slashes, name) :: rest =>
    let start := path ++ slashes
    if !isPattern name then pathsFrom files workingDirectory (start ++ toText name) rest
    else
      let directory := if start.isEmpty then ['.'] else start
      match files.locate true workingDirectory (Text.string directory) with
      | .ok ⟨names, some .directory⟩ =>
        let parts := readPattern name
        let hidden := (name.head?.map Prod.fst) = some '.'
        let found := ((files.children names).keys.map Text.ofString).filter fun child =>
          (hidden || child.head? ≠ some '.') && matchesParts parts child
        found.flatMap fun child => pathsFrom files workingDirectory (start ++ child) rest
      | _ => []

def paths (files : FileTree) (workingDirectory : String) (field : Field) : List Text :=
  if !isPattern field then [toText field]
  else
    match pathsFrom files workingDirectory [] (steps (field.length + 1) field) with
    | [] => [toText field]
    | found => found

end Field

end LanguageClient.Shell
