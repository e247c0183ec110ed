import Mathlib.Data.List.Basic
import VersionMatch.Text.Basic

/-!
# Marks that count or not

A mark is a character that has a meaning at some places of a text and is an ordinary character at
others: whether it counts depends on the character in front of it, and at the start of a text on
what came before. `FreeOf` says that no mark in a text counts. `free_of_cons` follows a text from
left to right, as the functions that look for marks do. `partsAt` cuts a text at the marks that
count, and leaves it in one piece exactly if there are none.
-/

namespace VersionMatch.Text

/-- Whether a mark counts behind a text: its last character decides, and `start` if there is
none. -/
def countsBehind (decides : Char → Bool) (start : Bool) : Text → Bool
  | [] => start
  | c :: rest => countsBehind decides (decides c) rest

/-- No mark in the text counts. -/
def FreeOf (mark : Char) (decides : Char → Bool) (start : Bool) (text : Text) : Prop :=
  ∀ before after, text = before ++ mark :: after → countsBehind decides start before = false

variable {mark : Char} {decides : Char → Bool} {start : Bool} {text : Text}

theorem counts_behind_append (left right : Text) :
    countsBehind decides start (left ++ right) =
      countsBehind decides (countsBehind decides start left) right := by
  induction left generalizing start with
  | nil => rfl
  | cons c rest ih => exact ih

theorem counts_behind_concat (before : Text) (c : Char) :
    countsBehind decides start (before ++ [c]) = decides c := by
  rw [counts_behind_append]
  rfl

theorem free_of_not_mem (h : mark ∉ text) : FreeOf mark decides start text := by
  intro before after hsplit
  exact absurd (by rw [hsplit]; simp) h

theorem free_of_cons {c : Char} {rest : Text} :
    FreeOf mark decides start (c :: rest) ↔
      ¬ (start = true ∧ c = mark) ∧ FreeOf mark decides (decides c) rest := by
  constructor
  · intro h
    constructor
    · intro ⟨hstart, hmark⟩
      have hcounts : start = false := h [] rest (by rw [hmark]; rfl)
      rw [hstart] at hcounts
      cases hcounts
    · intro before after hrest
      exact h (c :: before) after (by rw [hrest]; rfl)
  · intro ⟨hhead, hrest⟩ before after hsplit
    cases before with
    | nil =>
        cases hsplit
        exact Bool.eq_false_iff.2 fun hstart => hhead ⟨hstart, rfl⟩
    | cons d before =>
        cases hsplit
        exact hrest before after rfl

theorem free_of_append (left right : Text) :
    FreeOf mark decides start (left ++ right) ↔
      FreeOf mark decides start left ∧
        FreeOf mark decides (countsBehind decides start left) right := by
  induction left generalizing start with
  | nil => exact (and_iff_right (free_of_not_mem List.not_mem_nil)).symm
  | cons c rest ih =>
      rw [List.cons_append, free_of_cons, free_of_cons, ih, and_assoc]
      rfl

/-- What stands around a text and has no marks matters only by what its last character in front
decides. -/
theorem free_of_around {left right : Text} (hleft : mark ∉ left) (hright : mark ∉ right) :
    FreeOf mark decides start (left ++ text ++ right) ↔
      FreeOf mark decides (countsBehind decides start left) text := by
  rw [free_of_append, free_of_append, and_iff_right (free_of_not_mem hleft),
    and_iff_left (free_of_not_mem hright)]

/-- Where a mark counts at the start, the text has none there and none behind a character that lets
it count. -/
theorem free_of_iff :
    FreeOf mark decides true text ↔
      text.head? ≠ some mark ∧
        ∀ before c after, text = before ++ c :: mark :: after → decides c = false := by
  constructor
  · intro h
    constructor
    · intro hhead
      obtain ⟨rest, hrest⟩ := List.head?_eq_some_iff.1 hhead
      cases h [] rest hrest
    · intro before c after hsplit
      have hcounts := h (before ++ [c]) after (by simp [hsplit])
      rwa [counts_behind_concat] at hcounts
  · intro ⟨hhead, hdecides⟩ before after hsplit
    rcases List.eq_nil_or_concat' before with rfl | ⟨before, c, rfl⟩
    · exact absurd (by rw [hsplit]; rfl) hhead
    · rw [counts_behind_concat]
      exact hdecides before c after (by simp [hsplit])

/-! ## Cutting a text at its marks -/

/-- The pieces of a text between the marks that count. -/
def partsAt (mark : Char) (decides : Char → Bool) (start : Bool) : Text → List Text
  | [] => [[]]
  | c :: rest =>
    if start && c == mark then [] :: partsAt mark decides (decides c) rest
    else (partsAt mark decides (decides c) rest).modifyHead (c :: ·)

theorem parts_at_ne_nil (mark : Char) (decides : Char → Bool) (start : Bool) (text : Text) :
    partsAt mark decides start text ≠ [] := by
  induction text generalizing start with
  | nil => exact List.cons_ne_nil _ _
  | cons c rest ih =>
      rw [partsAt]
      split
      · exact List.cons_ne_nil _ _
      · rw [ne_eq, List.modifyHead_eq_nil_iff]
        exact ih (decides c)

/-- A mark that counts cuts the two sides apart. -/
theorem parts_at_append_mark {left : Text} (right : Text)
    (h : countsBehind decides start left = true) :
    partsAt mark decides start (left ++ mark :: right) =
      partsAt mark decides start left ++ partsAt mark decides (decides mark) right := by
  induction left generalizing start with
  | nil =>
      have hstart : start = true := h
      simp [partsAt, hstart]
  | cons c rest ih =>
      rw [List.cons_append, partsAt, partsAt, ih h]
      split
      · rfl
      · obtain ⟨first, others, hparts⟩ :=
          List.exists_cons_of_ne_nil (parts_at_ne_nil mark decides (decides c) rest)
        rw [hparts]
        rfl

/-- A text is in one piece exactly if no mark in it counts. -/
theorem length_parts_at_eq_one_iff :
    (partsAt mark decides start text).length = 1 ↔ FreeOf mark decides start text := by
  induction text generalizing start with
  | nil => exact iff_of_true rfl (free_of_not_mem List.not_mem_nil)
  | cons c rest ih =>
      rw [partsAt, free_of_cons]
      by_cases hmark : start = true ∧ c = mark
      · rw [if_pos (by simpa using hmark), List.length_cons, Nat.add_eq_right,
          List.length_eq_zero_iff]
        exact iff_of_false (parts_at_ne_nil _ _ _ rest) fun h => h.1 hmark
      · rw [if_neg (by simpa using hmark), List.length_modifyHead, ih, and_iff_right hmark]

theorem parts_at_of_free (h : FreeOf mark decides start text) :
    partsAt mark decides start text = [text] := by
  induction text generalizing start with
  | nil => rfl
  | cons c rest ih =>
      obtain ⟨hmark, hrest⟩ := free_of_cons.1 h
      rw [partsAt, if_neg (by simpa using hmark), ih hrest]
      rfl

end VersionMatch.Text
