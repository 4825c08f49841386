/-!
Paths as texts. A path is read as a list of components: the root of an absolute path, a leading
dot, the parent mark, and names. Repeated separators, separators at the end and dots elsewhere are
no components; the parent mark is kept.
-/
namespace LanguageClient.Path

inductive Component where
  | root
  | here
  | parent
  | name (text : String)
  deriving DecidableEq, Repr

def piecesFrom : (piece : List Char) → List Char → List String
  | piece, [] => [String.ofList piece.reverse]
  | piece, c :: rest =>
    if c = '/' then String.ofList piece.reverse :: piecesFrom [] rest
    else piecesFrom (c :: piece) rest

def pieces (path : String) : List String := piecesFrom [] path.toList

private theorem piecesFrom_append (piece front rest : List Char) :
    piecesFrom piece (front ++ '/' :: rest) = piecesFrom piece front ++ piecesFrom [] rest := by
  induction front generalizing piece with
  | nil => simp [piecesFrom]
  | cons c front ih => by_cases separates : c = '/' <;> simp [piecesFrom, separates, ih]

private theorem piecesFrom_plain (piece : List Char) {cs : List Char} (plain : '/' ∉ cs) :
    piecesFrom piece cs = [String.ofList (piece.reverse ++ cs)] := by
  induction cs generalizing piece with
  | nil => simp [piecesFrom]
  | cons c cs ih =>
    rw [List.mem_cons, not_or] at plain
    rw [piecesFrom, if_neg (Ne.symm plain.1), ih (c :: piece) plain.2]
    simp

private theorem plain_of_mem_piecesFrom {piece cs : List Char} (plain : '/' ∉ piece) {text : String}
    (inside : text ∈ piecesFrom piece cs) : '/' ∉ text.toList := by
  induction cs generalizing piece with
  | nil => simp_all [piecesFrom]
  | cons c cs ih =>
    by_cases separates : c = '/'
    · rw [piecesFrom, if_pos separates] at inside
      rcases List.mem_cons.1 inside with first | later
      · simpa [first] using plain
      · exact ih List.not_mem_nil later
    · rw [piecesFrom, if_neg separates] at inside
      exact ih (by simp [plain, Ne.symm separates]) inside

/-- The pieces before a separator and those behind it. -/
theorem pieces_append (front rest : String) : pieces (front ++ "/" ++ rest) = pieces front ++ pieces rest := by
  have split : (front ++ "/" ++ rest).toList = front.toList ++ '/' :: rest.toList := by simp
  rw [pieces, split, piecesFrom_append]
  rfl

theorem pieces_plain {text : String} (plain : '/' ∉ text.toList) : pieces text = [text] := by
  rw [pieces, piecesFrom_plain [] plain]
  simp

theorem plain_of_mem_pieces {path text : String} (inside : text ∈ pieces path) : '/' ∉ text.toList :=
  plain_of_mem_piecesFrom List.not_mem_nil inside

/-- Texts without separators are the pieces of what they make when they are joined. -/
theorem pieces_intercalate {texts : List String} (nonempty : texts ≠ []) (plain : ∀ text ∈ texts, '/' ∉ text.toList) :
    pieces ("/".intercalate texts) = texts := by
  induction texts with
  | nil => contradiction
  | cons first rest ih =>
    have plainFirst := pieces_plain (plain first List.mem_cons_self)
    cases rest with
    | nil => rw [String.intercalate_singleton, plainFirst]
    | cons second rest =>
      rw [String.intercalate_cons_cons, pieces_append, plainFirst,
        ih nofun fun text inside => plain text (List.mem_cons_of_mem first inside)]
      rfl

def isAbsolute (path : String) : Bool := path.toList.head? = some '/'

def innerComponent? (piece : String) : Option Component :=
  if piece = "" || piece = "." then none
  else if piece = ".." then some .parent
  else some (.name piece)

/-- The component that the first piece stands for. Before a leading separator it is the root. -/
def firstComponent? (path piece : String) : Option Component :=
  if isAbsolute path then some .root
  else if piece = "." then some .here
  else innerComponent? piece

def numbered (path : String) : List (Nat × Component) :=
  match pieces path with
  | [] => []
  | first :: rest =>
    ((firstComponent? path first).map fun c => (0, c)).toList ++
      (rest.zipIdx 1).filterMap fun (piece, i) => (innerComponent? piece).map fun c => (i, c)

def components (path : String) : List Component := (numbered path).map Prod.snd

def ofComponents : List Component → String
  | [] => ""
  | .root :: rest => "/" ++ "/".intercalate (rest.map text)
  | parts => "/".intercalate (parts.map text)
where
  text : Component → String
    | .root => ""
    | .here => "."
    | .parent => ".."
    | .name t => t

/-- `path` as seen from `base`: itself when it is absolute, else what follows `base`. -/
def join (base path : String) : String :=
  if isAbsolute path then path
  else if base.isEmpty || base.toList.getLast? = some '/' then base ++ path
  else base ++ "/" ++ path

def after? {α : Type} [DecidableEq α] : (start items : List (Nat × α)) → Option (List (Nat × α))
  | [], items => some items
  | _ :: _, [] => none
  | (_, a) :: start, (_, b) :: items => if a = b then after? start items else none

/-- The text of the given components of a path, from the piece of the first to that of the last. -/
def slice (path : String) : List (Nat × Component) → String
  | [] => ""
  | first :: rest =>
    let last := (first :: rest).getLast (by simp)
    "/".intercalate (((pieces path).drop first.1).take (last.1 - first.1 + 1))

def trimmed (path : String) : String :=
  match numbered path with
  | [(_, .root)] => "/"
  | parts => slice path parts

/-- What follows `base` in `path`, when the components of `path` begin with those of `base`. -/
def relativeTo? (base path : String) : Option String :=
  match numbered base with
  | [] => some (trimmed path)
  | start => (after? start (numbered path)).map (slice path)

def fileName? (path : String) : Option String :=
  match (components path).getLast? with
  | some (.name t) => some t
  | _ => none

/-- The part of a file name after its last dot. A dot at the start of the name does not count. -/
def extension? (path : String) : Option String := do
  let name ← fileName? path
  let reversed := name.toList.reverse
  let extension := (reversed.takeWhile (· ≠ '.')).reverse
  match reversed.dropWhile (· ≠ '.') with
  | [] => none
  | [_] => none
  | _ :: _ :: _ => some (String.ofList extension)

def parent? (path : String) : Option String :=
  match (numbered path).reverse with
  | [] => none
  | (_, .root) :: _ => none
  | _ :: [] => some ""
  | _ :: [(_, .root)] => some "/"
  | _ :: rest => some (slice path rest.reverse)

end LanguageClient.Path
