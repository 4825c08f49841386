import LanguageClient.Json.Shape

/-!
The proof state at a position, as plain text. Old servers send no list of goals, which is
different from an empty list.
-/
namespace LanguageClient

structure PlainGoal where
  rendered : String
  goals : Option (List String)
  deriving DecidableEq, Repr

namespace PlainGoal

def goalCount (g : PlainGoal) : Option Nat := g.goals.map List.length

def isSolved (g : PlainGoal) : Bool := g.goals = some []

def record : Json.Record PlainGoal :=
  PlainGoal.mk <$> .field "rendered" Json.Decoder.string
    <*> .optionalWithDefault "goals" (Json.Decoder.list Json.Decoder.string)

def decode : Json.Decoder PlainGoal := record.decode "PlainGoal"

def toJson (g : PlainGoal) : Json :=
  .ofMembers ([("rendered", .string g.rendered)] ++
    Json.memberIfSome "goals" (fun goals => .array (goals.map .string)) g.goals)

end PlainGoal

end LanguageClient
