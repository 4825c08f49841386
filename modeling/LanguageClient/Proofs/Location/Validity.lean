import LanguageClient.Location

/-! Which locations are taken for locations in a content. Positions are counted from zero, in UTF-16 code units
along the line. -/
namespace LanguageClient

/-- The position lies in the content: its line is one of the lines, where a content without lines has one that is
empty, and its character is no further than the line is wide. -/
def Position.LiesIn (p : Position) (content : String) : Prop :=
  ∃ text, (if Text.lines content = [] then [""] else Text.lines content)[p.line.toNat]? = some text ∧
    p.character.toNat ≤ Text.units16 text

/-- A line or a column that a person calls `n`, counted from zero. -/
theorem Position.ofDisplay_toNat {line column : UInt32} (least : 1 ≤ line.toNat) (least' : 1 ≤ column.toNat) :
    (ofDisplay line column).line.toNat = line.toNat - 1 ∧
      (ofDisplay line column).character.toNat = column.toNat - 1 := by
  have less {n : UInt32} (least : 1 ≤ n.toNat) : (if n = 0 then 0 else n - 1).toNat = n.toNat - 1 := by
    have positive : n ≠ 0 := by
      rintro rfl
      contradiction
    have one : (1 : UInt32) ≤ n := UInt32.le_iff_toNat_le.2 least
    rw [if_neg positive, UInt32.toNat_sub_of_le n 1 one]
    rfl
  exact ⟨less least, less least'⟩

namespace Location

/-- Where there are lines, a location is accepted just if its position lies in one of them. -/
theorem validate_eq_ok_iff_of_lines {l : Location} {content : String} (lines : Text.lines content ≠ [])
    (least : 1 ≤ l.line.toNat) (least' : 1 ≤ l.column.toNat) :
    l.validate content = .ok () ↔ l.position.LiesIn content := by
  obtain ⟨line_eq, character_eq⟩ := Position.ofDisplay_toNat least least'
  have lined : 1 ≤ (Text.lines content).length := List.length_pos_iff.2 lines
  simp only [validate, Position.LiesIn, if_neg lines, position, line_eq, character_eq, Nat.max_eq_left lined]
  cases found : (Text.lines content)[l.line.toNat - 1]? with
  | none =>
    have beyond := List.getElem?_eq_none_iff.1 found
    rw [if_pos (by omega)]
    simp
  | some text =>
    obtain ⟨inside, -⟩ := List.getElem?_eq_some_iff.1 found
    rw [if_neg (by omega)]
    dsimp only
    by_cases beyond : Text.units16 text + 1 < l.column.toNat
    · rw [if_pos beyond]
      refine iff_of_false nofun ?_
      rintro ⟨_, same, within⟩
      cases same
      omega
    · rw [if_neg beyond]
      exact iff_of_true rfl ⟨text, rfl, by omega⟩

/-- Without lines the first is accepted, whatever the column. -/
theorem validate_empty_eq_ok_iff {l : Location} (least : 1 ≤ l.line.toNat) :
    l.validate "" = .ok () ↔ l.line = 1 := by
  have unlined : Text.lines "" = [] := Text.lines_eq_nil_iff.2 rfl
  have first : l.line = 1 ↔ ¬ 1 < l.line.toNat := by
    rw [← UInt32.toNat_inj, show (1 : UInt32).toNat = 1 from rfl]
    omega
  rw [first]
  by_cases beyond : 1 < l.line.toNat
  · simp [validate, unlined, beyond]
  · simp [validate, unlined, beyond]

/-- A location is accepted just if its position lies in the content, unless the content is empty: on its one line
every column is accepted. -/
theorem validate_eq_ok_iff (l : Location) (content : String) (least : 1 ≤ l.line.toNat)
    (least' : 1 ≤ l.column.toNat) :
    l.validate content = .ok () ↔ l.position.LiesIn content ∨ content = "" ∧ l.line = 1 := by
  by_cases empty : content = ""
  · subst empty
    rw [validate_empty_eq_ok_iff least]
    refine ⟨fun first => .inr ⟨rfl, first⟩, ?_⟩
    rintro (⟨text, found, -⟩ | ⟨-, first⟩)
    · rw [if_pos (Text.lines_eq_nil_iff.2 rfl), position, (Position.ofDisplay_toNat least least').1] at found
      obtain ⟨inside, -⟩ := List.getElem?_eq_some_iff.1 found
      have one : l.line.toNat = (1 : UInt32).toNat := by
        rw [List.length_singleton] at inside
        change l.line.toNat = 1
        omega
      exact UInt32.toNat_inj.1 one
    · exact first
  · have lines : Text.lines content ≠ [] := fun unlined => empty (Text.lines_eq_nil_iff.1 unlined)
    rw [validate_eq_ok_iff_of_lines lines least least']
    simp [empty]

/-- The end of a line whose last letter takes two units, and the end of an empty content. -/
theorem validate_eq_ok_iff_ends :
    (⟨"A.lean", 2, 4⟩ : Location).validate "a\r\né𝔸" = .ok () ∧
    (⟨"A.lean", 2, 4⟩ : Location).position.LiesIn "a\r\né𝔸" ∧
    (⟨"A.lean", 1, 1⟩ : Location).validate "" = .ok () := by
  have ends : (⟨"A.lean", 2, 4⟩ : Location).position.LiesIn "a\r\né𝔸" := by
    refine ⟨"é𝔸", ?_, ?_⟩
    · decide +kernel
    · decide +kernel
  exact ⟨(validate_eq_ok_iff ⟨"A.lean", 2, 4⟩ "a\r\né𝔸" (by decide) (by decide)).2 (.inl ends), ends,
    (validate_eq_ok_iff ⟨"A.lean", 1, 1⟩ "" (by decide) (by decide)).2 (.inr ⟨rfl, rfl⟩)⟩

/-- A column that does not lie in an empty content, but is accepted. -/
theorem validate_empty_beyond :
    (⟨"A.lean", 1, 2⟩ : Location).validate "" = .ok () ∧
    ¬ (⟨"A.lean", 1, 2⟩ : Location).position.LiesIn "" := by
  constructor
  · rfl
  · rintro ⟨text, found, within⟩
    rw [if_pos (Text.lines_eq_nil_iff.2 rfl)] at found
    obtain rfl : "" = text := Option.some.inj found
    exact absurd within (by decide)

end Location

end LanguageClient
