import LanguageClient.Proofs.Json.Record
import LanguageClient.Proofs.Table
import Mathlib.Data.List.Forall2

/-! Values that are decoded alike. Two values are decoded alike when decoding fails for the same reason or
gives related results; a record is read alike from two sources when each of its fields is, so a member of
which no fault can come may be changed at will. -/
namespace LanguageClient.Json

variable {ε α β γ δ : Type}

inductive Alike (R : α → β → Prop) : Except ε α → Except ε β → Prop
  | ok {a : α} {b : β} (related : R a b) : Alike R (.ok a) (.ok b)
  | error (e : ε) : Alike R (.error e) (.error e)

namespace Alike

theorem refl {R : α → α → Prop} (related : ∀ a, R a a) (x : Except ε α) : Alike R x x := by
  cases x with
  | ok a => exact .ok (related a)
  | error e => exact .error e

theorem of_eq {x y : Except ε α} (same : x = y) : Alike Eq x y :=
  same ▸ refl (fun _ => rfl) x

theorem map {R : α → β → Prop} {S : γ → δ → Prop} {x : Except ε α} {y : Except ε β} (alike : Alike R x y)
    {f : α → γ} {g : β → δ} (related : ∀ a b, R a b → S (f a) (g b)) : Alike S (x.map f) (y.map g) := by
  cases alike with
  | ok pair => exact .ok (related _ _ pair)
  | error e => exact .error e

theorem iff_or {R : α → β → Prop} {x : Except ε α} {y : Except ε β} : Alike R x y ↔
    (∃ a b, x = .ok a ∧ y = .ok b ∧ R a b) ∨ ∃ e, x = .error e ∧ y = .error e := by
  constructor
  · intro alike
    cases alike with
    | ok related => exact .inl ⟨_, _, rfl, rfl, related⟩
    | error e => exact .inr ⟨e, rfl, rfl⟩
  · rintro (⟨a, b, rfl, rfl, related⟩ | ⟨e, rfl, rfl⟩)
    · exact .ok related
    · exact .error e

private theorem items {R : α → β → Prop} {decode : Decoder α} {decode' : Decoder β} {js js' : List Json}
    (each : List.Forall₂ (fun j j' => Alike R (decode j) (decode' j')) js js') :
    Alike (List.Forall₂ R) (Decoder.items decode js) (Decoder.items decode' js') := by
  induction each with
  | nil => exact .ok .nil
  | @cons j j' js js' first _ ih =>
    simp only [Decoder.items]
    generalize decode j = x at first
    generalize decode' j' = y at first
    generalize Decoder.items decode js = xs at ih
    generalize Decoder.items decode' js' = ys at ih
    cases first with
    | error e => exact .error e
    | ok related =>
      cases ih with
      | error e => exact .error e
      | ok rest => exact .ok (.cons related rest)

theorem list {R : α → β → Prop} {decode : Decoder α} {decode' : Decoder β} {js js' : List Json}
    (each : List.Forall₂ (fun j j' => Alike R (decode j) (decode' j')) js js') :
    Alike (List.Forall₂ R) (Decoder.list decode (.array js)) (Decoder.list decode' (.array js')) :=
  items each

section Records
variable {t u : Table Json} {name : String} {position : Nat} {R : α → α → Prop} {S : β → β → Prop}

theorem field {decode : Decoder α} {j j' : Json} (found : t.get? name = some j) (found' : u.get? name = some j')
    (alike : Alike R (decode j) (decode j')) :
    Alike R ((Record.field name decode).read (.members t) position)
      ((Record.field name decode).read (.members u) position) := by
  have looked : Record.lookup (.members t) name position = some j := found
  have looked' : Record.lookup (.members u) name position = some j' := found'
  unfold Record.field
  conv in Record.read _ (.members t) _ => whnf
  conv in Record.read _ (.members u) _ => whnf
  rw [looked, looked']
  dsimp only
  generalize decode j = x at alike
  generalize decode j' = y at alike
  cases alike with
  | ok related => exact .ok related
  | error e => exact .error _

/-- A member that may be anything is never at fault. -/
theorem any : Alike (fun _ _ => True) ((Record.optionalWithDefault name Decoder.json).read (.members t) position)
    ((Record.optionalWithDefault name Decoder.json).read (.members u) position) := by
  have read (members : Table Json) :
      ∃ a, (Record.optionalWithDefault name Decoder.json).read (.members members) position = .ok a := by
    simp only [Record.read_optionalWithDefault_eq_ok_iff, Record.lookup]
    cases members.get? name with
    | none => exact ⟨none, .inl ⟨rfl, rfl⟩⟩
    | some j => cases j <;> exact ⟨_, .inr ⟨_, rfl, rfl⟩⟩
  obtain ⟨a, first⟩ := read t
  obtain ⟨b, second⟩ := read u
  rw [first, second]
  exact .ok trivial

theorem seq {f : Record (α → β)} {record : Record α} {source source' : Source}
    (first : Alike (fun g g' => ∀ a a', R a a' → S (g a) (g' a')) (f.read source position) (f.read source' position))
    (second : Alike R (record.read source (position + f.size)) (record.read source' (position + f.size))) :
    Alike S ((f <*> record).read source position) ((f <*> record).read source' position) := by
  change Alike S ((Record.seq f record).read source position) ((Record.seq f record).read source' position)
  unfold Record.seq
  dsimp only
  generalize f.read source position = x at first
  generalize f.read source' position = x' at first
  generalize record.read source (position + f.size) = y at second
  generalize record.read source' (position + f.size) = y' at second
  cases first with
  | ok functions =>
    cases second with
    | ok arguments => exact .ok (functions _ _ arguments)
    | error e => exact .error e
  | error d =>
    cases second with
    | ok arguments => exact .error d
    | error e => exact .error _

theorem decode {record : Record α} (type : String)
    (alike : Alike R (record.read (.members t) 0) (record.read (.members u) 0)) :
    Alike R (record.decode type (.object t)) (record.decode type (.object u)) := by
  unfold Record.decode Record.decodeWith
  dsimp only
  generalize record.read (.members t) 0 = x at alike
  generalize record.read (.members u) 0 = y at alike
  cases alike with
  | ok related => exact .ok related
  | error e => exact .error _

theorem decodeOpen {record : Record α} (type : String) {known : List String}
    (alike : Alike R (record.read (.members t) 0) (record.read (.members u) 0))
    (others : t.filter (fun entry => !known.contains entry.1) = u.filter fun entry => !known.contains entry.1) :
    Alike (fun a b => R a.1 b.1 ∧ a.2 = b.2) (record.decodeOpen type known (.object t))
      (record.decodeOpen type known (.object u)) := by
  unfold Record.decodeOpen
  dsimp only
  generalize record.read (.members t) 0 = x at alike
  generalize record.read (.members u) 0 = y at alike
  cases alike with
  | ok related => exact .ok ⟨related, others⟩
  | error e => exact .error _

end Records

end Alike

end LanguageClient.Json
