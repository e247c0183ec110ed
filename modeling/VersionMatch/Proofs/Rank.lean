import Mathlib.Data.Prod.Lex
import Mathlib.Order.PiLex
import VersionMatch.Proofs.Key

/-!
# The rank of a clean version-id

The order of components is not transitive: as texts, `09` sorts before `1rc` and `1rc` before `9`,
but as numbers the first and the last are equal. This needs a word that begins with a digit, or a
numeral above the bound. A component is `Clean` if it is neither. Among clean components a word
sorts before all numbers or after all of them, as it does to `0`, so putting all numbers at the
place of `0` turns the order into that of the keys in a linear order. A version-id is ranked by the
infinite sequence of its components under the lexicographic order, and for clean version-ids the
signs of the exact comparison are those of their ranks. `exact_difference_preorder` collects what
follows from that.
-/

namespace VersionMatch

namespace Component

/-- A component is clean if it counts as a number or does not begin with a digit, as the empty
component does not. -/
def Clean (component : Text) : Prop :=
  IsNumber component ∨ ∀ c ∈ component.head?, ¬ ('0' ≤ c ∧ c ≤ '9')

instance : DecidablePred Clean := fun component =>
  @instDecidableOr _ _ _ (Option.decidableForallMem component.head?)

/-- The place of a key: words are ordered as texts, and all numbers stand where `0` does, ordered by
their values. -/
def Key.rank : Key → Text ×ₗ Nat
  | .number value => toLex (['0'], value)
  | .text component => toLex (component, 0)

theorem is_number_zero : IsNumber ['0'] := by decide

/-- A clean word is before a number exactly if it is before `0`. -/
theorem word_lt_number_iff {word number : Text} (hclean : Clean word) (hword : ¬ IsNumber word)
    (hnumber : IsNumber number) : word < number ↔ word < ['0'] := by
  obtain ⟨digit, others, rfl⟩ := List.exists_cons_of_ne_nil hnumber.ne_nil
  have hdigit := hnumber.digits digit (by simp)
  cases word with
  | nil => simp
  | cons c rest =>
      have hc : ¬ ('0' ≤ c ∧ c ≤ '9') := (hclean.resolve_left hword) c rfl
      have hne : c ≠ digit := by
        rintro rfl
        exact hc hdigit
      simp only [List.cons_lt_cons_iff, hne, false_and, or_false, List.not_lt_nil, and_false]
      -- The first character is no digit, so it is on the same side of all digits.
      constructor
      · intro hlt
        by_contra hge
        exact hc ⟨not_lt.1 hge, le_trans (le_of_lt hlt) hdigit.2⟩
      · intro hlt
        exact lt_of_lt_of_le hlt hdigit.1

/-- A clean word is behind a number exactly if it is behind `0`. -/
theorem number_lt_word_iff {word number : Text} (hclean : Clean word) (hword : ¬ IsNumber word)
    (hnumber : IsNumber number) : number < word ↔ ['0'] < word := by
  have hne : ∀ other, IsNumber other → word ≠ other := by
    rintro other hother rfl
    exact hword hother
  rw [← not_le, ← not_le, le_iff_lt_or_eq, le_iff_lt_or_eq,
    word_lt_number_iff hclean hword hnumber]
  simp only [hne number hnumber, hne ['0'] is_number_zero]

/-- Components are the same exactly if their keys have the same place. -/
theorem same_iff_rank_eq {a b : Text} : Same a b ↔ (key a).rank = (key b).rank := by
  rw [same_iff_key_eq]
  constructor
  · intro h
    rw [h]
  · intro h
    -- No word stands at the place of the numbers.
    by_cases ha : IsNumber a
    · by_cases hb : IsNumber b
      · rw [key_of_number ha, key_of_number hb] at h ⊢
        exact congrArg (fun place => Key.number (ofLex place).2) h
      · rw [key_of_number ha, key_of_text hb] at h
        have hword : ['0'] = b := congrArg (fun place => (ofLex place).1) h
        exact absurd (hword ▸ is_number_zero) hb
    · by_cases hb : IsNumber b
      · rw [key_of_text ha, key_of_number hb] at h
        have hword : a = ['0'] := congrArg (fun place => (ofLex place).1) h
        exact absurd (hword ▸ is_number_zero) ha
      · rw [key_of_text ha, key_of_text hb] at h ⊢
        exact congrArg (fun place => Key.text (ofLex place).1) h

/-- The order of clean components is that of the places of their keys. -/
theorem after_iff_rank_lt {a b : Text} (ha : Clean a) (hb : Clean b) :
    After a b ↔ (key b).rank < (key a).rank := by
  by_cases hna : IsNumber a
  · by_cases hnb : IsNumber b
    · rw [after_of_number hna hnb, key_of_number hna, key_of_number hnb]
      simp [Key.rank, Prod.Lex.toLex_lt_toLex]
    · rw [after_of_text (fun h => hnb h.2), key_of_number hna, key_of_text hnb,
        word_lt_number_iff hb hnb hna]
      have hne : b ≠ ['0'] := by
        rintro rfl
        exact hnb is_number_zero
      simp [Key.rank, Prod.Lex.toLex_lt_toLex, hne]
  · by_cases hnb : IsNumber b
    · rw [after_of_text (fun h => hna h.1), key_of_text hna, key_of_number hnb,
        number_lt_word_iff ha hna hnb]
      simp [Key.rank, Prod.Lex.toLex_lt_toLex]
    · rw [after_of_text (fun h => hna h.1), key_of_text hna, key_of_text hnb]
      simp [Key.rank, Prod.Lex.toLex_lt_toLex]

end Component

namespace VersionId

open Component (Key key same_iff_rank_eq after_iff_rank_lt)

/-- A version-id is clean if each of its components is. -/
def Clean (versionId : Text) : Prop :=
  ∀ component ∈ components versionId, Component.Clean component

instance : DecidablePred Clean := fun versionId =>
  inferInstanceAs (Decidable (∀ component ∈ components versionId, Component.Clean component))

/-- The places of all components of a version-id, missing ones being filled in, as a sequence in
the lexicographic order. -/
def rank (versionId : Text) : Lex (Nat → Text ×ₗ Nat) :=
  toLex fun i => (key (componentAt (components versionId) i)).rank

/-- The components of a clean version-id are clean, and so is the one that is filled in. -/
theorem Clean.component_at {versionId : Text} (h : Clean versionId) (i : Nat) :
    Component.Clean (componentAt (components versionId) i) := by
  by_cases hi : i < (components versionId).length
  · rw [componentAt, List.getD_eq_getElem _ _ hi]
    exact h _ (List.getElem_mem hi)
  · rw [componentAt, List.getD_eq_default _ _ (by omega)]
    exact .inl Component.is_number_zero

/-- The exact comparison is zero for version-ids of the same rank. -/
theorem exact_difference_eq_zero_iff_rank {a b : Text} :
    exactDifference a b = 0 ↔ rank a = rank b := by
  rw [exact_difference_eq_zero_iff, equal_iff_keys]
  simp only [← key_component_at, ← Component.same_iff_key_eq, same_iff_rank_eq]
  exact funext_iff.symm

variable {a b : Text}

/-- The exact comparison of clean version-ids is positive if the first has the higher rank. -/
theorem exact_difference_pos_iff_rank (ha : Clean a) (hb : Clean b) :
    0 < exactDifference a b ↔ rank b < rank a := by
  have hafter : ∀ i, Component.After (componentAt (components a) i)
      (componentAt (components b) i) ↔ rank b i < rank a i :=
    fun i => after_iff_rank_lt (ha.component_at i) (hb.component_at i)
  have hsame : ∀ i, Component.Same (componentAt (components a) i)
      (componentAt (components b) i) ↔ rank b i = rank a i :=
    fun i => same_iff_rank_eq.trans eq_comm
  rw [exact_difference_pos_iff, newer_iff]
  simp only [hafter, hsame]
  show _ ↔ ∃ i, (∀ j, j < i → rank b j = rank a j) ∧ rank b i < rank a i
  constructor
  · intro ⟨i, _, hlt, heq⟩
    exact ⟨i, heq, hlt⟩
  · intro ⟨i, heq, hlt⟩
    refine ⟨i, ?_, hlt, heq⟩
    -- Behind the last components both ranks go on with the same place.
    by_contra hi
    have ha : componentAt (components a) i = ['0'] := List.getD_eq_default _ _ (by omega)
    have hb : componentAt (components b) i = ['0'] := List.getD_eq_default _ _ (by omega)
    refine absurd ((hafter i).2 hlt) ?_
    rw [ha, hb, Component.after_of_number Component.is_number_zero Component.is_number_zero]
    exact lt_irrefl _

/-- The exact comparison of clean version-ids is negative if the first has the lower rank. -/
theorem exact_difference_neg_iff_rank (ha : Clean a) (hb : Clean b) :
    exactDifference a b < 0 ↔ rank a < rank b := by
  have hswap := exact_difference_swap a b
  rw [← exact_difference_pos_iff_rank hb ha]
  omega

/-- The exact comparison of clean version-ids is not positive if the first has no higher rank. -/
theorem exact_difference_nonpos_iff_rank (ha : Clean a) (hb : Clean b) :
    exactDifference a b ≤ 0 ↔ rank a ≤ rank b := by
  rw [← not_lt, ← not_lt]
  exact not_congr (exact_difference_pos_iff_rank ha hb)

/-- The exact comparison of clean version-ids is not negative if the first has no lower rank. -/
theorem exact_difference_nonneg_iff_rank (ha : Clean a) (hb : Clean b) :
    0 ≤ exactDifference a b ↔ rank b ≤ rank a := by
  rw [← not_lt, ← not_lt]
  exact not_congr (exact_difference_neg_iff_rank ha hb)

/-- Version-ids of the same rank compare alike with any other. -/
theorem sign_exact_difference_congr {c : Text} (ha : Clean a) (hb : Clean b) (hc : Clean c)
    (h : rank a = rank b) : (exactDifference a c).sign = (exactDifference b c).sign := by
  have hpos : 0 < exactDifference a c ↔ 0 < exactDifference b c := by
    rw [exact_difference_pos_iff_rank ha hc, exact_difference_pos_iff_rank hb hc, h]
  have hneg : exactDifference a c < 0 ↔ exactDifference b c < 0 := by
    rw [exact_difference_neg_iff_rank ha hc, exact_difference_neg_iff_rank hb hc, h]
  rcases lt_trichotomy (exactDifference a c) 0 with hlt | heq | hgt
  · rw [Int.sign_eq_neg_one_of_neg hlt, Int.sign_eq_neg_one_of_neg (hneg.1 hlt)]
  · have hother : exactDifference b c = 0 := by omega
    rw [heq, hother]
  · rw [Int.sign_eq_one_of_pos hgt, Int.sign_eq_one_of_pos (hpos.1 hgt)]

/-- On clean version-ids the exact comparison is a total preorder: any two are comparable, being
not newer is transitive and strictly so if one of the two steps is strict, and equal version-ids
compare alike with a third one. Hence the releases that meet a version-id and `+` are closed under
newer ones. -/
theorem exact_difference_preorder {a b c : Text} (ha : Clean a) (hb : Clean b) (hc : Clean c) :
    (exactDifference a b ≤ 0 ∨ exactDifference b a ≤ 0) ∧
    (exactDifference a b ≤ 0 → exactDifference b c ≤ 0 →
      exactDifference a c ≤ 0 ∧
      (exactDifference a b < 0 ∨ exactDifference b c < 0 → exactDifference a c < 0)) ∧
    (exactDifference a b = 0 → (exactDifference a c).sign = (exactDifference b c).sign) ∧
    (a ≠ [] → b ≠ [] → c ≠ [] → '-' ∉ a → '-' ∉ b →
      Requirement.meets a (c ++ ['+']) = true → 0 ≤ exactDifference b a →
      Requirement.meets b (c ++ ['+']) = true) := by
  refine ⟨?_, ?_, ?_, ?_⟩
  · rw [exact_difference_nonpos_iff_rank ha hb, exact_difference_nonpos_iff_rank hb ha]
    exact le_total (rank a) (rank b)
  · intro hab hbc
    rw [exact_difference_nonpos_iff_rank ha hb] at hab
    rw [exact_difference_nonpos_iff_rank hb hc] at hbc
    rw [exact_difference_nonpos_iff_rank ha hc, exact_difference_neg_iff_rank ha hb,
      exact_difference_neg_iff_rank hb hc, exact_difference_neg_iff_rank ha hc]
    refine ⟨le_trans hab hbc, ?_⟩
    intro hstrict
    rcases hstrict with hlt | hlt
    · exact lt_of_lt_of_le hlt hbc
    · exact lt_of_le_of_lt hab hlt
  · intro hzero
    exact sign_exact_difference_congr ha hb hc (exact_difference_eq_zero_iff_rank.1 hzero)
  · intro hane hbne hcne haplain hbplain hmeets hnewer
    rw [Requirement.meets_at_least_iff hane hcne haplain,
      exact_difference_nonneg_iff_rank ha hc] at hmeets
    rw [exact_difference_nonneg_iff_rank hb ha] at hnewer
    rw [Requirement.meets_at_least_iff hbne hcne hbplain, exact_difference_nonneg_iff_rank hb hc]
    exact le_trans hmeets hnewer

/-- The version-ids `1.8` and `1.8.0` are equal and before `2.rc`, which meets `1.7+` since `1.8`
does. -/
theorem exact_difference_preorder_words :
    Clean ['1', '.', '8'] ∧ Clean ['1', '.', '8', '.', '0'] ∧ Clean ['2', '.', 'r', 'c'] ∧
    Clean ['1', '.', '7'] ∧
    exactDifference ['1', '.', '8'] ['2', '.', 'r', 'c'] < 0 ∧
    (exactDifference ['1', '.', '8'] ['2', '.', 'r', 'c']).sign =
      (exactDifference ['1', '.', '8', '.', '0'] ['2', '.', 'r', 'c']).sign ∧
    Requirement.meets ['2', '.', 'r', 'c'] (['1', '.', '7'] ++ ['+']) = true := by
  have ha : Clean ['1', '.', '8'] := by decide
  have hb : Clean ['1', '.', '8', '.', '0'] := by decide
  have hc : Clean ['2', '.', 'r', 'c'] := by decide
  have hd : Clean ['1', '.', '7'] := by decide
  obtain ⟨-, htrans, hsign, -⟩ := exact_difference_preorder ha hb hc
  obtain ⟨-, -, -, hupward⟩ := exact_difference_preorder ha hc hd
  refine ⟨ha, hb, hc, hd, ?_, hsign (by decide), ?_⟩
  · exact (htrans (by decide) (by decide)).2 (.inr (by decide))
  · exact hupward (by decide) (by decide) (by decide) (by decide) (by decide) (by decide)
      (by decide)

end VersionId

end VersionMatch
