import Mathlib.Data.List.GetD
import VersionMatch.Proofs.Expression.Relaxation

/-!
# Version-ids that are made of numbers

A list of numbers can be written in many ways: each number as a numeral behind any number of zeros,
with any separators between them. A `NumericId` is such a text together with its numbers. What the
comparisons of these texts find is the lexicographic comparison of the lists, either with the
shorter list filled up with zeros or as far as both lists go. This is `comparison_of_numbers`, for
the two comparisons and for the releases that a version-id with a modifier accepts.
-/

namespace VersionMatch

namespace Component

/-- A numeral of a number: its decimal digits behind any number of zeros. -/
def numeral (zeros n : Nat) : Text :=
  List.replicate zeros '0' ++ Text.ofNat n

theorem decimal_value_eq_of_digit_chars (component : Text) :
    decimalValue component = Nat.ofDigitChars 10 component 0 := by
  induction component with
  | nil => rfl
  | cons c rest ih =>
      rw [decimal_value_cons, Nat.ofDigitChars_cons, Nat.ofDigitChars_eq_ofDigitChars_zero, ih,
        digitValue]
      ring

/-- Zeros in front do not change the value of a numeral. -/
theorem decimal_value_numeral (zeros n : Nat) : decimalValue (numeral zeros n) = n := by
  rw [decimal_value_eq_of_digit_chars, numeral, Nat.ofDigitChars_append,
    Nat.ofDigitChars_replicate_zero, Nat.mul_zero, Text.ofNat, Nat.ofDigitChars_ten_toDigits]

theorem numeral_ne_nil (zeros n : Nat) : numeral zeros n ≠ [] :=
  List.append_ne_nil_of_right_ne_nil _ Nat.toDigits_ne_nil

theorem is_digit_of_mem_numeral {zeros n : Nat} : ∀ c ∈ numeral zeros n, c.isDigit = true := by
  intro c hc
  rcases List.mem_append.1 hc with hc | hc
  · rw [List.eq_of_mem_replicate hc]
    rfl
  · exact Nat.isDigit_of_mem_toDigits (by decide) (by decide) hc

/-- A numeral is read as its number if this is within the bound. -/
theorem number_numeral {n : Nat} (zeros : Nat) (hbound : n ≤ 2147483647) :
    number? (numeral zeros n) = some n := by
  have hvalue := decimal_value_numeral zeros n
  have hdigits : ∀ c ∈ numeral zeros n, '0' ≤ c ∧ c ≤ '9' :=
    fun c hc => is_digit_iff.1 (is_digit_of_mem_numeral c hc)
  have hle : decimalValue (numeral zeros n) ≤ 2147483647 := by
    rw [hvalue]
    exact hbound
  exact number_eq_some_iff.2 ⟨⟨numeral_ne_nil zeros n, hdigits, hle⟩, hvalue⟩

end Component

namespace VersionId

open Component (numeral number? difference)

/-! ## The first difference of two lists of numbers -/

/-- The differences of the numbers that stand at the same place of two lists. -/
def numberDifferences (xs ys : List Nat) : List Int :=
  List.zipWith (fun m n : Nat => (m : Int) - n) xs ys

/-- `SignOf d xs ys` says that `d` has the sign of the lexicographic comparison of `xs` with
`ys`. -/
structure SignOf (d : Int) (xs ys : List Nat) : Prop where
  neg_iff : d < 0 ↔ xs < ys
  zero_iff : d = 0 ↔ xs = ys
  pos_iff : 0 < d ↔ ys < xs

/-- The same number in front of both lists leaves the comparison to the rest. -/
theorem SignOf.cons_same {d : Int} {xs ys : List Nat} (h : SignOf d xs ys) (n : Nat) :
    SignOf d (n :: xs) (n :: ys) := by
  refine ⟨?_, ?_, ?_⟩
  · rw [h.neg_iff, List.cons_lt_cons_iff]
    simp
  · rw [h.zero_iff, List.cons_inj_right]
  · rw [h.pos_iff, List.cons_lt_cons_iff]
    simp

/-- Different numbers in front of two lists decide the comparison. -/
theorem sign_of_cons_other {m n : Nat} (hne : m ≠ n) (xs ys : List Nat) :
    SignOf ((m : Int) - n) (m :: xs) (n :: ys) := by
  refine ⟨?_, ?_, ?_⟩
  · rw [List.cons_lt_cons_iff]
    omega
  · rw [List.cons.injEq]
    omega
  · rw [List.cons_lt_cons_iff]
    omega

/-- The first difference of two lists of the same length has the sign of their comparison. -/
theorem sign_of_first_nonzero {xs ys : List Nat} (h : xs.length = ys.length) :
    SignOf (firstNonzero (numberDifferences xs ys)) xs ys := by
  induction xs generalizing ys with
  | nil =>
      obtain rfl := List.length_eq_zero_iff.1 h.symm
      exact ⟨by decide, by decide, by decide⟩
  | cons m xs ih =>
      cases ys with
      | nil => cases h
      | cons n ys =>
          have hrest := ih (Nat.succ.inj h)
          rw [numberDifferences, List.zipWith_cons_cons, first_nonzero_cons]
          split
          case isTrue hzero =>
            obtain rfl : m = n := by omega
            exact hrest.cons_same m
          case isFalse hother =>
            exact sign_of_cons_other (by omega) xs ys

/-! ## Components that are read as numbers -/

/-- The components of a list count as numbers, which have these values. -/
def Reads (components : List Text) (numbers : List Nat) : Prop :=
  List.Forall₂ (fun component n => number? component = some n) components numbers

section Reads

variable {as bs : List Text} {xs ys : List Nat}

/-- A component that is missing is read as zero. -/
theorem Reads.component_at (h : Reads as xs) (i : Nat) :
    number? (componentAt as i) = some (xs.getD i 0) := by
  induction h generalizing i with
  | nil => rfl
  | cons hfirst _ ih =>
      cases i with
      | zero => exact hfirst
      | succ i => exact ih i

/-- Components that are read as numbers differ by these. The two lists may be cut to a common length
or filled up to it, as long as they have the numbers of the components or zeros at each place. -/
theorem Reads.differences_eq (has : Reads as xs) (hbs : Reads bs ys) {left right : List Nat}
    (hlength : left.length = right.length)
    (hleft : ∀ i < left.length, left.getD i 0 = xs.getD i 0)
    (hright : ∀ i < right.length, right.getD i 0 = ys.getD i 0) :
    ((List.range left.length).map fun i => difference (componentAt as i) (componentAt bs i)) =
      numberDifferences left right := by
  apply List.ext_getElem
  · simp [numberDifferences, hlength]
  · intro i hi hj
    rw [List.length_map, List.length_range] at hi
    have hx := hleft i hi
    have hy := hright i (hlength ▸ hi)
    rw [List.getD_eq_getElem _ _ hi] at hx
    rw [List.getD_eq_getElem _ _ (hlength ▸ hi)] at hy
    simp only [List.getElem_map, List.getElem_range, numberDifferences, List.getElem_zipWith,
      difference, has.component_at, hbs.component_at, hx, hy]

end Reads

theorem get_d_take {xs : List Nat} {k i : Nat} (hi : i < k) :
    (xs.take k).getD i 0 = xs.getD i 0 := by
  rw [List.getD_eq_getElem?_getD, List.getD_eq_getElem?_getD, List.getElem?_take_of_lt hi]

theorem get_d_rightpad (xs : List Nat) (k i : Nat) :
    (xs.rightpad k 0).getD i 0 = xs.getD i 0 :=
  get_d_append_replicate 0 xs (k - xs.length) i

/-! ## Texts that write numbers -/

/-- `Writes numbers text` says that the text is made of a numeral for each of the numbers, which are
within the bound, with a single separator between neighbours. -/
inductive Writes : List Nat → Text → Prop where
  | last (zeros n) : n ≤ 2147483647 → Writes [n] (numeral zeros n)
  | cons (zeros n separator numbers rest) :
      n ≤ 2147483647 → isSeparator separator = true → Writes numbers rest →
      Writes (n :: numbers) (numeral zeros n ++ separator :: rest)

theorem not_separator_of_digit {c : Char} (h : c.isDigit = true) : isSeparator c = false := by
  rw [Bool.eq_false_iff]
  intro hseparator
  simp only [isSeparator, Bool.or_eq_true, beq_iff_eq] at hseparator
  rcases hseparator with (rfl | rfl) | rfl <;> cases h

/-- The components of a text that writes numbers are read as these. -/
theorem Writes.reads {numbers : List Nat} {text : Text} (h : Writes numbers text) :
    Reads (components text) numbers := by
  have hfree : ∀ zeros n, ∀ c ∈ numeral zeros n, isSeparator c = false :=
    fun _ _ c hc => not_separator_of_digit (Component.is_digit_of_mem_numeral c hc)
  induction h with
  | last zeros n hbound =>
      rw [components, Text.spans_of_free (hfree zeros n)]
      exact .cons (Component.number_numeral zeros hbound) .nil
  | cons zeros n separator numbers rest hbound hseparator _ ih =>
      rw [components, Text.spans_cons_of_free rest (hfree zeros n) hseparator]
      exact .cons (Component.number_numeral zeros hbound) ih

/-- A version-id that is made of numbers, with the numbers that it writes. -/
structure NumericId where
  numbers : List Nat
  text : Text
  writes : Writes numbers text

namespace NumericId

/-- The numbers of a version-id, filled up with zeros to the length of another one. -/
def filled (a b : NumericId) : List Nat :=
  a.numbers.rightpad (max a.numbers.length b.numbers.length) 0

/-- The numbers of a version-id as far as another one goes. -/
def common (a b : NumericId) : List Nat :=
  a.numbers.take (min a.numbers.length b.numbers.length)

theorem length_components (a : NumericId) : (components a.text).length = a.numbers.length :=
  a.writes.reads.length_eq

/-- The exact comparison has the sign of the comparison of the filled lists. -/
theorem sign_of_exact (a b : NumericId) :
    SignOf (exactDifference a.text b.text) (a.filled b) (b.filled a) := by
  have hleft : (a.filled b).length =
      max (components a.text).length (components b.text).length := by
    rw [filled, List.length_rightpad, a.length_components, b.length_components]
    omega
  have hright : (a.filled b).length = (b.filled a).length := by
    rw [filled, filled, List.length_rightpad, List.length_rightpad]
    omega
  rw [exactDifference, filled_differences_eq, ← hleft,
    a.writes.reads.differences_eq b.writes.reads hright (fun _ _ => get_d_rightpad _ _ _)
      (fun _ _ => get_d_rightpad _ _ _)]
  exact sign_of_first_nonzero hright

/-- The prefix comparison has the sign of the comparison of the lists as far as both go. -/
theorem sign_of_prefix (a b : NumericId) :
    SignOf (prefixDifference a.text b.text) (a.common b) (b.common a) := by
  have hleft : (a.common b).length =
      min (components a.text).length (components b.text).length := by
    rw [common, List.length_take, a.length_components, b.length_components]
    omega
  have hright : (a.common b).length = (b.common a).length := by
    rw [common, common, List.length_take, List.length_take]
    omega
  have htake : ∀ c d : NumericId, ∀ i < (c.common d).length,
      (c.common d).getD i 0 = c.numbers.getD i 0 := by
    intro c d i hi
    rw [common, List.length_take] at hi
    exact get_d_take (by omega)
  rw [prefixDifference, common_differences_eq, ← hleft,
    a.writes.reads.differences_eq b.writes.reads hright (htake a b) (htake b a)]
  exact sign_of_first_nonzero hright

/-! ## Acceptable releases -/

/-- A text that writes numbers is a version-id of the grammar. -/
theorem is_version_id (a : NumericId) : Grammar.IsVersionId a.text := by
  rw [Grammar.is_version_id_iff]
  intro component hcomponent
  obtain ⟨n, -, hread⟩ :=
    exists_mem_of_forall_two (List.Forall₂.flip a.writes.reads) component hcomponent
  have hnumber := (Component.number_eq_some_iff.1 hread).1
  refine Grammar.is_string_iff.2 ⟨hnumber.ne_nil, ?_⟩
  intro c hc
  have hdigit := Component.is_digit_iff.2 (hnumber.digits c hc)
  refine Grammar.is_char_iff.2 ⟨not_separator_of_digit hdigit, ?_⟩
  intro hforbidden
  simp only [List.mem_cons, List.not_mem_nil, or_false] at hforbidden
  rcases hforbidden with rfl | rfl | rfl | rfl <;> cases hdigit

/-- A version-id of numbers with a modifier is a text with a single simple-element. -/
theorem is_acceptable_modified (requirement : NumericId) (modifier : Modifier) (release : Text) :
    Requirement.isAcceptable release (requirement.text ++ [modifier.symbol]) =
      Requirement.meets release (requirement.text ++ [modifier.symbol]) :=
  @SimpleElement.is_acceptable_render release ⟨requirement.text, some modifier⟩
    requirement.is_version_id

/-- A release of numbers is acceptable to a version-id of numbers and `+` if its filled list is not
before that of the version-id. -/
theorem is_acceptable_at_least {release : NumericId} (requirement : NumericId)
    (hplain : '-' ∉ release.text) :
    Requirement.isAcceptable release.text (requirement.text ++ ['+']) =
      decide (requirement.filled release ≤ release.filled requirement) := by
  have hacceptable := requirement.is_acceptable_modified .atLeast release.text
  have hsign := sign_of_exact release requirement
  rw [Modifier.symbol] at hacceptable
  rw [hacceptable, Bool.eq_iff_iff, decide_eq_true_iff,
    Requirement.meets_at_least_iff release.is_version_id.ne_nil requirement.is_version_id.ne_nil
      hplain, ← not_lt, ← not_lt, hsign.neg_iff]

/-- A release of numbers is acceptable to a version-id of numbers and `*` if the two have the same
numbers as far as both go. -/
theorem is_acceptable_prefix_match {release : NumericId} (requirement : NumericId)
    (hplain : '-' ∉ release.text) :
    Requirement.isAcceptable release.text (requirement.text ++ ['*']) =
      decide (release.common requirement = requirement.common release) := by
  have hacceptable := requirement.is_acceptable_modified .prefixMatch release.text
  have hsign := sign_of_prefix release requirement
  rw [Modifier.symbol] at hacceptable
  rw [hacceptable, Bool.eq_iff_iff, decide_eq_true_iff,
    Requirement.meets_prefix_match_iff release.is_version_id.ne_nil
      requirement.is_version_id.ne_nil hplain, hsign.zero_iff]

/-- The acceptable releases of a list, where a condition on their numbers decides. -/
theorem acceptable_eq_filter {releases : List NumericId} {versionString : Text}
    {accepts : NumericId → Bool}
    (h : ∀ release ∈ releases,
      Requirement.isAcceptable release.text versionString = accepts release) :
    Selection.acceptable (releases.map text) versionString =
      (releases.filter accepts).map text := by
  rw [Selection.acceptable, List.filter_map]
  exact congrArg (List.map text) (List.filter_congr h)

/-- On version-ids of numbers, whatever zeros stand in front of these and whatever separators
between them, the exact comparison has the sign of the lexicographic comparison with the shorter
list filled up with zeros, and the prefix comparison that of the comparison as far as both lists go.
Of releases of numbers that are no milestone builds, a version-id of numbers and `+` accepts, in
order, those whose filled list is not before its own, and a version-id of numbers and `*` those with
the same numbers as far as both go. -/
theorem comparison_of_numbers (a b : NumericId) :
    SignOf (exactDifference a.text b.text) (a.filled b) (b.filled a) ∧
    SignOf (prefixDifference a.text b.text) (a.common b) (b.common a) ∧
    ∀ releases : List NumericId, (∀ release ∈ releases, '-' ∉ release.text) →
      Selection.acceptable (releases.map text) (b.text ++ ['+']) =
        (releases.filter fun release => b.filled release ≤ release.filled b).map text ∧
      Selection.acceptable (releases.map text) (b.text ++ ['*']) =
        (releases.filter fun release => release.common b = b.common release).map text := by
  refine ⟨sign_of_exact a b, sign_of_prefix a b, ?_⟩
  intro releases hplain
  constructor
  · refine acceptable_eq_filter ?_
    intro release hrelease
    exact is_acceptable_at_least b (hplain release hrelease)
  · refine acceptable_eq_filter ?_
    intro release hrelease
    exact is_acceptable_prefix_match b (hplain release hrelease)

/-- The texts `01-8` and `1.8_00` write `1, 8` and `1, 8, 0`, which are equal once they are filled
up. Of `1.8_00`, `1.10` and `1`, the text `01-8+` accepts the first two, and `01-8*` the first and
the last. -/
theorem comparison_of_numbers_zeros :
    Writes [1, 8] ['0', '1', '-', '8'] ∧ Writes [1, 8, 0] ['1', '.', '8', '_', '0', '0'] ∧
    Writes [1, 10] ['1', '.', '1', '0'] ∧ Writes [1] ['1'] ∧
    exactDifference ['1', '.', '8', '_', '0', '0'] ['0', '1', '-', '8'] = 0 ∧
    Selection.acceptable [['1', '.', '8', '_', '0', '0'], ['1', '.', '1', '0'], ['1']]
      ['0', '1', '-', '8', '+'] = [['1', '.', '8', '_', '0', '0'], ['1', '.', '1', '0']] ∧
    Selection.acceptable [['1', '.', '8', '_', '0', '0'], ['1', '.', '1', '0'], ['1']]
      ['0', '1', '-', '8', '*'] = [['1', '.', '8', '_', '0', '0'], ['1']] := by
  have hrequirement : Writes [1, 8] ['0', '1', '-', '8'] :=
    .cons 1 1 '-' [8] ['8'] (by decide) rfl (.last 0 8 (by decide))
  have hequal : Writes [1, 8, 0] ['1', '.', '8', '_', '0', '0'] :=
    .cons 0 1 '.' [8, 0] ['8', '_', '0', '0'] (by decide) rfl
      (.cons 0 8 '_' [0] ['0', '0'] (by decide) rfl (.last 1 0 (by decide)))
  have hnewer : Writes [1, 10] ['1', '.', '1', '0'] :=
    .cons 0 1 '.' [10] ['1', '0'] (by decide) rfl (.last 0 10 (by decide))
  have hshorter : Writes [1] ['1'] := .last 0 1 (by decide)
  obtain ⟨hexact, -, hacceptable⟩ :=
    comparison_of_numbers ⟨_, _, hequal⟩ ⟨_, _, hrequirement⟩
  obtain ⟨hatLeast, hmatch⟩ :=
    hacceptable [⟨_, _, hequal⟩, ⟨_, _, hnewer⟩, ⟨_, _, hshorter⟩] (by simp)
  exact ⟨hrequirement, hequal, hnewer, hshorter, hexact.zero_iff.2 rfl, hatLeast, hmatch⟩

end NumericId

end VersionId

end VersionMatch
