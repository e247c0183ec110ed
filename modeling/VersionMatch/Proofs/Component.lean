import Mathlib.Data.Char
import Mathlib.Data.List.Lex
import Mathlib.Data.Nat.Digits.Defs
import VersionMatch.Component

/-!
# The order of components

`IsNumber` says which components count as numbers and `decimalValue` is the value of a numeral of
any length. `number_eq_some_iff` shows that the bounded reading of `number?`, which gives up at the
first prefix above the bound, finds exactly these. `Same` and `After` then describe the order of
two components without computing a difference, and `difference_eq_zero_iff` and
`difference_pos_iff` read the sign of `difference` through them.
-/

namespace VersionMatch.Component

/-- The value of a digit. -/
def digitValue (c : Char) : Nat :=
  c.toNat - '0'.toNat

/-- The value of a text of digits, read in full as a decimal numeral. -/
def decimalValue (component : Text) : Nat :=
  Nat.ofDigits 10 (component.reverse.map digitValue)

/-- A component counts as a number if it is a numeral of ASCII digits, at least one, whose value
is at most `2147483647`. -/
structure IsNumber (component : Text) : Prop where
  ne_nil : component ≠ []
  digits : ∀ c ∈ component, '0' ≤ c ∧ c ≤ '9'
  value_le : decimalValue component ≤ 2147483647

/-- Two components are the same to a comparison: numbers if their values are equal, all others if
their texts are. -/
inductive Same (a b : Text) : Prop where
  | number : IsNumber a → IsNumber b → decimalValue a = decimalValue b → Same a b
  | text : ¬ (IsNumber a ∧ IsNumber b) → a = b → Same a b

/-- `After a b` says that `a` sorts after `b`: numbers by their values, all others in the order of
their code points. -/
inductive After (a b : Text) : Prop where
  | number : IsNumber a → IsNumber b → decimalValue b < decimalValue a → After a b
  | text : ¬ (IsNumber a ∧ IsNumber b) → b < a → After a b

/-! ## Numbers and texts apart -/

section Kinds

variable {a b : Text}

theorem same_of_number (ha : IsNumber a) (hb : IsNumber b) :
    Same a b ↔ decimalValue a = decimalValue b := by
  constructor
  · intro h
    cases h with
    | number _ _ hvalue => exact hvalue
    | text hnot _ => exact absurd ⟨ha, hb⟩ hnot
  · exact .number ha hb

theorem same_of_text (hnot : ¬ (IsNumber a ∧ IsNumber b)) : Same a b ↔ a = b := by
  constructor
  · intro h
    cases h with
    | number ha hb _ => exact absurd ⟨ha, hb⟩ hnot
    | text _ heq => exact heq
  · exact .text hnot

theorem after_of_number (ha : IsNumber a) (hb : IsNumber b) :
    After a b ↔ decimalValue b < decimalValue a := by
  constructor
  · intro h
    cases h with
    | number _ _ hvalue => exact hvalue
    | text hnot _ => exact absurd ⟨ha, hb⟩ hnot
  · exact .number ha hb

theorem after_of_text (hnot : ¬ (IsNumber a ∧ IsNumber b)) : After a b ↔ b < a := by
  constructor
  · intro h
    cases h with
    | number ha hb _ => exact absurd ⟨ha, hb⟩ hnot
    | text _ hlt => exact hlt
  · exact .text hnot

end Kinds

/-! ## Numbers -/

theorem is_digit_iff {c : Char} : c.isDigit = true ↔ '0' ≤ c ∧ c ≤ '9' := by
  simp [Char.isDigit, Char.le_def]

/-- The first digit counts for as many places as follow it. -/
theorem decimal_value_cons (c : Char) (rest : Text) :
    decimalValue (c :: rest) = digitValue c * 10 ^ rest.length + decimalValue rest := by
  simp only [decimalValue, List.reverse_cons, List.map_append, List.map_cons, List.map_nil,
    Nat.ofDigits_append, Nat.ofDigits_singleton, List.length_map, List.length_reverse]
  ring

/-- Reading on from a value within the bound yields a number if all that follows are digits and
the value of the whole numeral is within the bound. A prefix above the bound settles the matter,
since further digits never make a value smaller. -/
theorem fold_read_digit_eq_some_iff {component : Text} {start value : Nat}
    (hstart : start ≤ maxNumber) :
    component.foldlM readDigit start = some value ↔
      (∀ c ∈ component, c.isDigit = true) ∧
        start * 10 ^ component.length + decimalValue component = value ∧ value ≤ maxNumber := by
  induction component generalizing start with
  | nil =>
      simp only [List.foldlM_nil, decimalValue, List.reverse_nil, List.map_nil, Nat.ofDigits_nil,
        List.length_nil, pow_zero, mul_one, add_zero, List.not_mem_nil, false_implies,
        implies_true, true_and, Option.pure_def, Option.some.injEq]
      constructor
      · rintro rfl
        exact ⟨rfl, hstart⟩
      · exact And.left
  | cons c rest ih =>
      have hvalue : start * 10 ^ (c :: rest).length + decimalValue (c :: rest) =
          appendDigit start c * 10 ^ rest.length + decimalValue rest := by
        rw [decimal_value_cons, List.length_cons, appendDigit, digitValue]
        ring
      rw [List.foldlM_cons, hvalue, readDigit, List.forall_mem_cons]
      by_cases hdigit : c.isDigit = true
      · by_cases hbound : appendDigit start c ≤ maxNumber
        · simp [hdigit, hbound, ih hbound]
        · -- The reading stops here, and the whole numeral is above the bound as well.
          have hpos : 1 ≤ 10 ^ rest.length := Nat.one_le_pow _ _ (by decide)
          have hgrow := Nat.le_mul_of_pos_right (appendDigit start c) hpos
          simp only [hdigit, hbound, decide_false, Bool.and_false, Bool.false_eq_true, if_false,
            Option.bind_eq_bind, Option.bind_none, reduceCtorEq, false_iff]
          omega
      · simp [hdigit]

/-- A component is read as a number exactly if it counts as one, and then as its full value. -/
theorem number_eq_some_iff {component : Text} {value : Nat} :
    number? component = some value ↔ IsNumber component ∧ decimalValue component = value := by
  have hfold : component.foldlM readDigit 0 = some value ↔
      (∀ c ∈ component, '0' ≤ c ∧ c ≤ '9') ∧
        decimalValue component = value ∧ value ≤ maxNumber := by
    simpa only [zero_mul, zero_add, is_digit_iff] using
      fold_read_digit_eq_some_iff (Nat.zero_le maxNumber)
  unfold number?
  by_cases hnil : component = []
  · simp only [hnil, List.isEmpty_nil, if_true, reduceCtorEq, false_iff]
    exact fun h => h.1.ne_nil rfl
  · rw [List.isEmpty_eq_false_iff.2 hnil, if_neg Bool.false_ne_true, hfold]
    constructor
    · rintro ⟨hdigits, rfl, hbound⟩
      exact ⟨⟨hnil, hdigits, hbound⟩, rfl⟩
    · rintro ⟨hnumber, rfl⟩
      exact ⟨hnumber.digits, rfl, hnumber.value_le⟩

/-- A component that counts as a number is read as its value. -/
theorem IsNumber.number_eq {component : Text} (h : IsNumber component) :
    number? component = some (decimalValue component) :=
  number_eq_some_iff.2 ⟨h, rfl⟩

/-! ## Differences -/

/-- The three ways in which two texts can be ordered, each with its difference. -/
theorem text_difference_cases (a b : Text) :
    a < b ∧ textDifference a b = -1 ∨ a = b ∧ textDifference a b = 0 ∨
      b < a ∧ textDifference a b = 1 := by
  unfold textDifference
  rcases lt_trichotomy a b with h | rfl | h
  · exact .inl ⟨h, if_pos h⟩
  · exact .inr (.inl ⟨rfl, by simp⟩)
  · exact .inr (.inr ⟨h, by rw [if_neg (lt_asymm h), if_pos h]⟩)

theorem text_difference_eq_zero_iff {a b : Text} : textDifference a b = 0 ↔ a = b := by
  rcases text_difference_cases a b with ⟨h, hd⟩ | ⟨rfl, hd⟩ | ⟨h, hd⟩
  · simp [hd, ne_of_lt h]
  · simp [hd]
  · simp [hd, ne_of_gt h]

theorem text_difference_pos_iff {a b : Text} : 0 < textDifference a b ↔ b < a := by
  rcases text_difference_cases a b with ⟨h, hd⟩ | ⟨rfl, hd⟩ | ⟨h, hd⟩
  · simp [hd, lt_asymm h]
  · simp [hd]
  · simp [hd, h]

theorem text_difference_swap (a b : Text) : textDifference b a = -textDifference a b := by
  unfold textDifference
  rcases lt_trichotomy a b with h | rfl | h
  · simp [h, lt_asymm h]
  · simp
  · simp [h, lt_asymm h]

/-- Two numbers differ by their values. -/
theorem difference_of_number {a b : Text} (ha : IsNumber a) (hb : IsNumber b) :
    difference a b = (decimalValue a : Int) - decimalValue b := by
  simp only [difference, ha.number_eq, hb.number_eq]

/-- Two components that are not both numbers differ as texts. -/
theorem difference_of_text {a b : Text} (h : ¬ (IsNumber a ∧ IsNumber b)) :
    difference a b = textDifference a b := by
  unfold difference
  cases ha : number? a with
  | none => rfl
  | some m =>
      cases hb : number? b with
      | none => rfl
      | some n => exact absurd ⟨(number_eq_some_iff.1 ha).1, (number_eq_some_iff.1 hb).1⟩ h

/-- The difference is zero for components that are the same to a comparison. -/
theorem difference_eq_zero_iff {a b : Text} : difference a b = 0 ↔ Same a b := by
  by_cases h : IsNumber a ∧ IsNumber b
  · rw [difference_of_number h.1 h.2, same_of_number h.1 h.2]
    omega
  · rw [difference_of_text h, same_of_text h, text_difference_eq_zero_iff]

/-- The difference is positive if the first component sorts after the second. -/
theorem difference_pos_iff {a b : Text} : 0 < difference a b ↔ After a b := by
  by_cases h : IsNumber a ∧ IsNumber b
  · rw [difference_of_number h.1 h.2, after_of_number h.1 h.2]
    omega
  · rw [difference_of_text h, after_of_text h, text_difference_pos_iff]

/-- Exchanging the components changes the sign of the difference. -/
theorem difference_swap (a b : Text) : difference b a = -difference a b := by
  by_cases h : IsNumber a ∧ IsNumber b
  · rw [difference_of_number h.1 h.2, difference_of_number h.2 h.1]
    omega
  · rw [difference_of_text h, difference_of_text (fun hswap => h hswap.symm),
      text_difference_swap]

end VersionMatch.Component
