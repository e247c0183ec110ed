import Mathlib.Data.List.DropRight
import VersionMatch.Text.Blank

/-!
# Blanks at the ends of a text

Trimming a text is described without computing it: what is left begins and ends with characters that
are not blank, and there were only blanks around it. `trim_eq_iff` and `trim_end_eq_iff` say that
these are the results of trimming, so a statement about trimmed texts is one about blank texts
around others.
-/

namespace VersionMatch.Text

/-- Every character of the text is blank. -/
def AllBlank (text : Text) : Prop :=
  ∀ c ∈ text, isBlank c = true

/-- No character of the text is blank. -/
def BlankFree (text : Text) : Prop :=
  ∀ c ∈ text, isBlank c = false

instance : DecidablePred BlankFree :=
  List.decidableBAll fun c => isBlank c = false

/-- The text neither begins nor ends with a blank. -/
structure Trimmed (text : Text) : Prop where
  head : ∀ c ∈ text.head?, isBlank c = false
  last : ∀ c ∈ text.getLast?, isBlank c = false

theorem AllBlank.append {left right : Text} (hleft : AllBlank left) (hright : AllBlank right) :
    AllBlank (left ++ right) :=
  List.forall_mem_append.2 ⟨hleft, hright⟩

/-- Spaces are blank. -/
theorem all_blank_spaces (n : Nat) : AllBlank (List.replicate n ' ') := by
  intro c hc
  rw [List.eq_of_mem_replicate hc]
  rfl

theorem BlankFree.not_mem {text : Text} {c : Char} (h : BlankFree text) (hc : isBlank c = true) :
    c ∉ text := by
  intro hmem
  rw [h c hmem] at hc
  cases hc

theorem BlankFree.trimmed {text : Text} (h : BlankFree text) : Trimmed text where
  head c hc := h c (List.mem_of_head? hc)
  last c hc := h c (List.mem_of_getLast? hc)

/-! ## The end of a text -/

/-- Blanks at the end of a text do not survive. -/
theorem trim_end_append {text after : Text} (h : AllBlank after) :
    trimEnd (text ++ after) = trimEnd text := by
  rw [trimEnd, List.reverse_append, List.dropWhile_append_of_pos, trimEnd]
  intro c hc
  exact h c (List.mem_reverse.1 hc)

/-- A text that does not end with a blank stays as it is. -/
theorem trim_end_of_last {text : Text} (h : ∀ c ∈ text.getLast?, isBlank c = false) :
    trimEnd text = text := by
  refine List.rdropWhile_eq_self_iff.2 fun hne => ?_
  rw [h _ (List.getLast?_eq_getLast_of_ne_nil hne)]
  exact Bool.false_ne_true

/-- Only blanks are taken off the end of a text. -/
theorem exists_trim_end_append (text : Text) :
    ∃ after, AllBlank after ∧ text = trimEnd text ++ after :=
  ⟨text.rtakeWhile isBlank, fun _ => List.mem_rtakeWhile_imp,
    (List.rdropWhile_append_rtakeWhile).symm⟩

theorem last_of_trim_end {text : Text} : ∀ c ∈ (trimEnd text).getLast?, isBlank c = false := by
  intro c hc
  have hne : trimEnd text ≠ [] := by
    intro hnil
    rw [hnil] at hc
    cases hc
  rw [List.getLast?_eq_getLast_of_ne_nil hne] at hc
  cases hc
  exact Bool.eq_false_iff.2 (List.rdropWhile_last_not isBlank text hne)

/-- What is left of a text does not end with a blank, and was followed by blanks only. -/
theorem trim_end_eq_iff {text kept : Text} :
    trimEnd text = kept ↔
      (∀ c ∈ kept.getLast?, isBlank c = false) ∧
        ∃ after, AllBlank after ∧ text = kept ++ after := by
  constructor
  · rintro rfl
    exact ⟨last_of_trim_end, exists_trim_end_append text⟩
  · rintro ⟨hlast, after, hafter, rfl⟩
    rw [trim_end_append hafter, trim_end_of_last hlast]

/-- Blanks at the end of a text add no character that is not blank. -/
theorem get_append_blanks {text after : Text} (h : AllBlank after) {c : Char}
    (hc : isBlank c = false) (p : Nat) :
    (text ++ after)[p]? = some c ↔ text[p]? = some c := by
  by_cases hp : p < text.length
  · rw [List.getElem?_append_left hp]
  · have hle : text.length ≤ p := Nat.le_of_not_lt hp
    rw [List.getElem?_append_right hle, List.getElem?_eq_none hle]
    constructor
    · intro hget
      rw [h c (List.mem_of_getElem? hget)] at hc
      cases hc
    · intro hget
      cases hget

/-! ## Both ends of a text -/

/-- What is left of a text neither begins nor ends with a blank, and there were only blanks
around it. -/
theorem trim_eq_iff {text kept : Text} :
    trim text = kept ↔
      Trimmed kept ∧
        ∃ before after, AllBlank before ∧ AllBlank after ∧ text = before ++ kept ++ after := by
  rw [trim, trim_end_eq_iff]
  constructor
  · rintro ⟨hlast, after, hafter, hstart⟩
    refine ⟨⟨?_, hlast⟩, text.takeWhile isBlank, after, fun _ => List.mem_takeWhile_imp, hafter, ?_⟩
    · -- What is left begins where the blanks at the start of the text end.
      intro c hc
      have hhead : (text.dropWhile isBlank).head? = some c := by
        rw [show text.dropWhile isBlank = kept ++ after from hstart, List.head?_append, hc]
        rfl
      have hnot := List.head?_dropWhile_not isBlank text
      rw [hhead] at hnot
      exact hnot
    · rw [List.append_assoc, ← hstart]
      exact List.takeWhile_append_dropWhile.symm
  · rintro ⟨⟨hhead, hlast⟩, before, after, hbefore, hafter, rfl⟩
    refine ⟨hlast, ?_⟩
    rw [List.append_assoc, trimStart, List.dropWhile_append_of_pos hbefore]
    cases kept with
    | nil => exact ⟨[], nofun, by rw [List.nil_append, List.dropWhile_eq_nil_iff.2 hafter]; rfl⟩
    | cons c rest =>
        refine ⟨after, hafter, ?_⟩
        rw [List.cons_append, List.dropWhile_cons_of_neg]
        rw [hhead c rfl]
        exact Bool.false_ne_true

theorem trim_of_trimmed {text : Text} (h : Trimmed text) : trim text = text :=
  trim_eq_iff.2 ⟨h, [], [], nofun, nofun, (List.append_nil text).symm⟩

/-- Nothing is left exactly of the blank texts. -/
theorem trim_eq_nil_iff {text : Text} : trim text = [] ↔ AllBlank text := by
  rw [trim_eq_iff]
  constructor
  · rintro ⟨-, before, after, hbefore, hafter, rfl⟩
    rw [List.append_nil]
    exact hbefore.append hafter
  · intro h
    exact ⟨⟨nofun, nofun⟩, text, [], h, nofun, by simp⟩

/-- Trimming goes by what is between the blanks around a text. -/
theorem trim_append {before inner after : Text} (hbefore : AllBlank before)
    (hafter : AllBlank after) : trim (before ++ inner ++ after) = trim inner := by
  generalize hkept : trim inner = kept
  obtain ⟨htrimmed, left, right, hleft, hright, rfl⟩ := trim_eq_iff.1 hkept
  refine trim_eq_iff.2 ⟨htrimmed, before ++ left, right ++ after, hbefore.append hleft,
    hright.append hafter, ?_⟩
  simp only [List.append_assoc]

end VersionMatch.Text
