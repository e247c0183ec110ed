import VersionMatch.Proofs.VersionId
import VersionMatch.Query

/-!
# Bounds on numbers and comparisons

A component is read digit by digit, and what is read so far is held against the largest number after
each digit. So the accumulator is at most one digit longer than the largest number, however long the
component is, and all comparisons stay within the range of two numbers. `bounded_numbers` states
this together with the condition for a component to be read as a number.
-/

namespace VersionMatch

namespace Component

/-! ## The accumulator -/

/-- `Accumulates component value` says that the accumulator has this value at some time while the
component is read: it begins at zero, and as long as reading has not stopped it takes in the next
digit before it is held against the bound. -/
inductive Accumulates (component : Text) : Nat → Prop where
  | start : Accumulates component 0
  | digit (before c after value) :
      component = before ++ c :: after → before.foldlM readDigit 0 = some value →
      c.isDigit = true → Accumulates component (appendDigit value c)

/-- A digit makes a number that is within the bound at most one digit longer. -/
theorem append_digit_le {value : Nat} {c : Char} (hvalue : value ≤ maxNumber)
    (hdigit : c.isDigit = true) : appendDigit value c ≤ 21474836479 := by
  have hchar : c.toNat ≤ 57 := (Char.isDigit_iff_toNat.1 hdigit).2
  have hzero : '0'.toNat = 48 := rfl
  unfold maxNumber at hvalue
  unfold appendDigit
  omega

/-- What is read before reading stops is within the bound. -/
theorem le_of_fold_read_digit {component : Text} {value : Nat}
    (h : component.foldlM readDigit 0 = some value) : value ≤ maxNumber :=
  ((fold_read_digit_eq_some_iff (Nat.zero_le maxNumber)).1 h).2.2

/-- The accumulator never exceeds the largest number by more than a digit. -/
theorem Accumulates.le {component : Text} {value : Nat} (h : Accumulates component value) :
    value ≤ 21474836479 := by
  cases h with
  | start => exact Nat.zero_le _
  | digit before c after value _ hread hdigit =>
      exact append_digit_le (le_of_fold_read_digit hread) hdigit

/-- Zeros in front of a component do not change how it is read. -/
theorem number_leading_zeros {component : Text} (hne : component ≠ []) (zeros : Nat) :
    number? (List.replicate zeros '0' ++ component) = number? component := by
  have hfold : (List.replicate zeros '0' ++ component).foldlM readDigit 0 =
      component.foldlM readDigit 0 := by
    induction zeros with
    | zero => rfl
    | succ zeros ih =>
        have hzero : readDigit 0 '0' = some 0 := rfl
        rw [List.replicate_succ, List.cons_append, List.foldlM_cons, hzero]
        exact ih
  have hall : List.replicate zeros '0' ++ component ≠ [] :=
    List.append_ne_nil_of_right_ne_nil _ hne
  rw [number?, number?, List.isEmpty_eq_false_iff.2 hall, List.isEmpty_eq_false_iff.2 hne, hfold]

/-! ## Differences -/

/-- A difference is bounded if it is within the range of differences of two numbers. -/
def Bounded (d : Int) : Prop :=
  -2147483647 ≤ d ∧ d ≤ 2147483647

theorem bounded_difference (a b : Text) : Bounded (difference a b) := by
  unfold Bounded
  by_cases h : IsNumber a ∧ IsNumber b
  · have ha := h.1.value_le
    have hb := h.2.value_le
    rw [difference_of_number h.1 h.2]
    omega
  · rw [difference_of_text h]
    rcases text_difference_cases a b with ⟨-, hd⟩ | ⟨-, hd⟩ | ⟨-, hd⟩
    · rw [hd]
      decide
    · rw [hd]
      decide
    · rw [hd]
      decide

end Component

namespace VersionId

open Component (Accumulates Bounded IsNumber bounded_difference decimalValue difference number?)

/-- The first difference of a list is bounded if all of them are. -/
theorem bounded_first_nonzero {differences : List Int} (h : ∀ d ∈ differences, Bounded d) :
    Bounded (firstNonzero differences) := by
  induction differences with
  | nil => exact ⟨by decide, by decide⟩
  | cons d rest ih =>
      rw [List.forall_mem_cons] at h
      rw [first_nonzero_cons]
      split
      case isTrue => exact ih h.2
      case isFalse => exact h.1

theorem bounded_prefix_difference (a b : Text) : Bounded (prefixDifference a b) := by
  rw [prefixDifference, common_differences_eq]
  exact bounded_first_nonzero (List.forall_mem_map.2 fun _ _ => bounded_difference _ _)

theorem bounded_exact_difference (a b : Text) : Bounded (exactDifference a b) := by
  rw [exactDifference, filled_differences_eq]
  exact bounded_first_nonzero (List.forall_mem_map.2 fun _ _ => bounded_difference _ _)

/-- A component is read as a number exactly if it is not empty, all of its characters are digits,
and its full value is at most 2147483647, and then as this value. Zeros in front do not matter. The
accumulator never exceeds 21474836479, and no comparison leaves the range from -2147483647 to
2147483647. -/
theorem bounded_numbers (component a b : Text) (id otherId : Option Text) :
    (∀ value, number? component = some value ↔
      component ≠ [] ∧ (∀ c ∈ component, '0' ≤ c ∧ c ≤ '9') ∧ decimalValue component = value ∧
        value ≤ 2147483647) ∧
    (component ≠ [] →
      ∀ zeros, number? (List.replicate zeros '0' ++ component) = number? component) ∧
    (∀ value, Accumulates component value → value ≤ 21474836479) ∧
    (-2147483647 ≤ difference a b ∧ difference a b ≤ 2147483647) ∧
    (-2147483647 ≤ Query.prefixDifference id otherId ∧
      Query.prefixDifference id otherId ≤ 2147483647) ∧
    -2147483647 ≤ Query.exactDifference id otherId ∧
      Query.exactDifference id otherId ≤ 2147483647 := by
  refine ⟨?_, Component.number_leading_zeros, fun _ => Accumulates.le, bounded_difference a b,
    bounded_prefix_difference _ _, bounded_exact_difference _ _⟩
  intro value
  rw [Component.number_eq_some_iff]
  constructor
  · rintro ⟨hnumber, rfl⟩
    exact ⟨hnumber.ne_nil, hnumber.digits, rfl, hnumber.value_le⟩
  · rintro ⟨hne, hdigits, rfl, hbound⟩
    exact ⟨⟨hne, hdigits, hbound⟩, rfl⟩

/-- The accumulator reaches its bound for a numeral that is one digit longer than the largest
number. -/
theorem bounded_numbers_reached :
    number? "0021474836479x".toList = none ∧
    (Accumulates "0021474836479x".toList 21474836479 ∧ 21474836479 ≤ 21474836479) ∧
    number? (List.replicate 5 '0' ++ "2147483647".toList) = some 2147483647 ∧
    number? "2147483648".toList = none := by
  obtain ⟨-, -, hbound, -⟩ :=
    bounded_numbers "0021474836479x".toList [] [] none none
  obtain ⟨-, hzeros, -⟩ := bounded_numbers "2147483647".toList [] [] none none
  have hreached : Accumulates "0021474836479x".toList 21474836479 :=
    .digit "002147483647".toList '9' ['x'] 2147483647 rfl rfl rfl
  refine ⟨by decide, ⟨hreached, hbound _ hreached⟩, ?_, by decide⟩
  rw [hzeros (by decide)]
  decide

end VersionId

end VersionMatch
