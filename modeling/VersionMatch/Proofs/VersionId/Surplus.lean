import VersionMatch.Proofs.VersionId

/-!
# The two comparisons side by side

Both comparisons go through the same differences as long as both sides have components. The prefix
comparison stops there. The exact comparison goes on through the surplus, the components that only
one side has, with `0` on the other side. `filled_differences_eq_append` states this on the lists
of differences, and `exact_extends_prefix_difference` draws from it how the two results are related.
-/

namespace VersionMatch.VersionId

open Component (Same difference difference_eq_zero_iff difference_swap)

/-! ## The first difference of a list -/

/-- The first difference of two lists in a row is that of the first one, unless it has none. -/
theorem first_nonzero_append (before after : List Int) :
    firstNonzero (before ++ after) =
      if firstNonzero before = 0 then firstNonzero after else firstNonzero before := by
  induction before with
  | nil => rfl
  | cons d rest ih =>
      rw [List.cons_append, first_nonzero_cons, first_nonzero_cons, ih]
      by_cases hd : d = 0
      · rw [if_pos hd, if_pos hd]
      · rw [if_neg hd, if_neg hd, if_neg hd]

/-- A difference that is not zero and stands behind zeros only is the first one. -/
theorem first_nonzero_eq_of_get_elem {differences : List Int} {i : Nat} {d : Int}
    (hi : differences[i]? = some d) (hzero : ∀ j < i, differences[j]? = some 0) (hne : d ≠ 0) :
    firstNonzero differences = d := by
  obtain ⟨hlength, hget⟩ := List.getElem?_eq_some_iff.1 hi
  have hfind : differences.find? (· != 0) = some d := by
    rw [List.find?_eq_some_iff_getElem]
    refine ⟨by simpa using hne, i, hlength, hget, ?_⟩
    intro j hj
    obtain ⟨_, hget⟩ := List.getElem?_eq_some_iff.1 (hzero j hj)
    simp [hget]
  rw [firstNonzero, hfind, Option.getD_some]

/-! ## The surplus -/

/-- The differences of the components that only one side has from the missing ones on the other
side. -/
def surplusDifferences (as bs : List Text) : List Int :=
  (as.drop bs.length).map (difference · missing) ++ (bs.drop as.length).map (difference missing)

/-- The differences with filling are those without, and then those of the surplus. -/
theorem filled_differences_eq_append (as bs : List Text) :
    filledDifferences as bs = commonDifferences as bs ++ surplusDifferences as bs := by
  induction as generalizing bs with
  | nil => simp [filledDifferences, commonDifferences, surplusDifferences]
  | cons left as ih =>
      cases bs with
      | nil => simp [filledDifferences, commonDifferences, surplusDifferences]
      | cons right bs => exact congrArg (difference left right :: ·) (ih bs)

/-- The exact comparison is the prefix comparison if this finds a difference, and otherwise the
first difference of the surplus. -/
theorem exact_difference_eq (a b : Text) :
    exactDifference a b =
      if prefixDifference a b = 0
      then firstNonzero (surplusDifferences (components a) (components b))
      else prefixDifference a b := by
  rw [exactDifference, filled_differences_eq_append, first_nonzero_append, ← prefixDifference]

/-- If the second side does not have more components, the surplus is that of the first side. -/
theorem surplus_differences_of_le {as bs : List Text} (h : bs.length ≤ as.length) :
    surplusDifferences as bs = (as.drop bs.length).map (difference · missing) := by
  rw [surplusDifferences, List.drop_eq_nil_of_le h, List.map_nil, List.append_nil]

/-- If the first side does not have more components, the surplus is that of the second side. -/
theorem surplus_differences_of_ge {as bs : List Text} (h : as.length ≤ bs.length) :
    surplusDifferences as bs = (bs.drop as.length).map (difference missing) := by
  rw [surplusDifferences, List.drop_eq_nil_of_le h, List.map_nil, List.nil_append]

/-! ## The prefix comparison -/

/-- Exchanging the version-ids changes the sign of the prefix comparison. -/
theorem prefix_difference_swap (a b : Text) : prefixDifference b a = -prefixDifference a b := by
  unfold prefixDifference
  rw [← first_nonzero_neg, common_differences_eq, common_differences_eq, List.map_map,
    Nat.min_comm]
  congr 1
  apply List.map_congr_left
  intro i _
  exact difference_swap _ _

/-- The prefix comparison is the difference of the components at the first index where they are not
the same. -/
theorem prefix_difference_eq_of_first {a b : Text} {i : Nat}
    (hi : i < min (components a).length (components b).length)
    (hsame : ∀ j < i, Same (componentAt (components a) j) (componentAt (components b) j))
    (hother : ¬ Same (componentAt (components a) i) (componentAt (components b) i)) :
    prefixDifference a b =
      difference (componentAt (components a) i) (componentAt (components b) i) := by
  have hget : ∀ j < min (components a).length (components b).length,
      (commonDifferences (components a) (components b))[j]? =
        some (difference (componentAt (components a) j) (componentAt (components b) j)) := by
    intro j hj
    rw [common_differences_eq, List.getElem?_map, List.getElem?_range hj, Option.map_some]
  refine first_nonzero_eq_of_get_elem (hget i hi) ?_ (mt difference_eq_zero_iff.1 hother)
  intro j hj
  rw [hget j (hj.trans hi), difference_eq_zero_iff.2 (hsame j hj)]

/-! ## Both comparisons -/

/-- Each comparison changes its sign when the sides are exchanged. If the prefix comparison finds a
difference, the exact one finds the same one, which is that at the first index where the components
are not the same, whatever comes behind it. If it finds none, the exact comparison is the first
difference between `0` and the components that one side has more, if there is one. -/
theorem exact_extends_prefix_difference (a b : Text) :
    prefixDifference a b = -prefixDifference b a ∧
    exactDifference a b = -exactDifference b a ∧
    (prefixDifference a b ≠ 0 → exactDifference a b = prefixDifference a b) ∧
    (∀ i < min (components a).length (components b).length,
      (∀ j < i, Same (componentAt (components a) j) (componentAt (components b) j)) →
      ¬ Same (componentAt (components a) i) (componentAt (components b) i) →
      prefixDifference a b =
        difference (componentAt (components a) i) (componentAt (components b) i) ∧
      exactDifference a b =
        difference (componentAt (components a) i) (componentAt (components b) i)) ∧
    (prefixDifference a b = 0 →
      ((components b).length ≤ (components a).length →
        exactDifference a b = firstNonzero
          (((components a).drop (components b).length).map fun c => difference c ['0'])) ∧
      ((components a).length ≤ (components b).length →
        exactDifference a b = firstNonzero
          (((components b).drop (components a).length).map fun c => difference ['0'] c))) ∧
    (exactDifference a b = 0 → prefixDifference a b = 0) := by
  have hextends : prefixDifference a b ≠ 0 → exactDifference a b = prefixDifference a b := by
    intro hne
    rw [exact_difference_eq, if_neg hne]
  refine ⟨prefix_difference_swap b a, exact_difference_swap b a, hextends, ?_, ?_, ?_⟩
  · intro i hi hsame hother
    have hdifference := prefix_difference_eq_of_first hi hsame hother
    have hne : prefixDifference a b ≠ 0 := hdifference ▸ mt difference_eq_zero_iff.1 hother
    exact ⟨hdifference, (hextends hne).trans hdifference⟩
  · intro hzero
    rw [exact_difference_eq, if_pos hzero]
    constructor
    · intro hle
      rw [surplus_differences_of_le hle]
      rfl
    · intro hle
      rw [surplus_differences_of_ge hle]
      rfl
  · intro hzero
    exact prefix_difference_eq_zero_iff.2 (exact_difference_eq_zero_iff.1 hzero).agree

/-- The texts `1.8.rc` and `1.10.2` differ by the numbers `8` and `10`, whatever comes behind them.
The text `1.8..2` only has a surplus over `1.8`, and of this the empty component is before `0`. -/
theorem exact_extends_prefix_difference_surplus :
    prefixDifference ['1', '.', '8', '.', 'r', 'c'] ['1', '.', '1', '0', '.', '2'] = -2 ∧
    exactDifference ['1', '.', '8', '.', 'r', 'c'] ['1', '.', '1', '0', '.', '2'] = -2 ∧
    prefixDifference ['1', '.', '8', '.', '.', '2'] ['1', '.', '8'] = 0 ∧
    exactDifference ['1', '.', '8', '.', '.', '2'] ['1', '.', '8'] = -1 ∧
    exactDifference ['1', '.', '8'] ['1', '.', '8', '.', '.', '2'] = 1 := by
  obtain ⟨-, -, -, hfirst, -, -⟩ :=
    exact_extends_prefix_difference ['1', '.', '8', '.', 'r', 'c'] ['1', '.', '1', '0', '.', '2']
  obtain ⟨-, hswap, -, -, hsurplus, -⟩ :=
    exact_extends_prefix_difference ['1', '.', '8', '.', '.', '2'] ['1', '.', '8']
  have hzero : prefixDifference ['1', '.', '8', '.', '.', '2'] ['1', '.', '8'] = 0 := by decide
  have hexact : exactDifference ['1', '.', '8', '.', '.', '2'] ['1', '.', '8'] = -1 :=
    (hsurplus hzero).1 (by decide)
  have hsame : ∀ j < 1, Same
      (componentAt (components ['1', '.', '8', '.', 'r', 'c']) j)
      (componentAt (components ['1', '.', '1', '0', '.', '2']) j) := by
    intro j hj
    rw [← difference_eq_zero_iff]
    revert j
    decide
  have hother : ¬ Same
      (componentAt (components ['1', '.', '8', '.', 'r', 'c']) 1)
      (componentAt (components ['1', '.', '1', '0', '.', '2']) 1) := by
    rw [← difference_eq_zero_iff]
    decide
  obtain ⟨hdifference, hfull⟩ := hfirst 1 (by decide) hsame hother
  refine ⟨hdifference, hfull, hzero, hexact, ?_⟩
  rw [hexact] at hswap
  omega

end VersionMatch.VersionId
