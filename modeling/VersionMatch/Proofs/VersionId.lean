import VersionMatch.Proofs.Component
import VersionMatch.Proofs.Text.Span
import VersionMatch.VersionId

/-!
# The comparisons of version-ids, index by index

Both comparisons run through pairs of components and stop at the first difference. Here they are
described on whole lists of components instead: `Equal`, `Newer` and `Agree` cut the two texts,
take `0` for a component that is missing, and say at which indices the components have to be the
same. The theorems named after the comparisons read their signs through these relations.
-/

namespace VersionMatch.VersionId

/-- The component at an index, and `0` behind the last one. -/
def componentAt (components : List Text) (i : Nat) : Text :=
  components.getD i ['0']

/-- `Equal a b` says that the components of two version-ids, the shorter list filled up with `0`,
are the same at every index. -/
def Equal (a b : Text) : Prop :=
  ∃ as bs, Text.Cut isSeparator a as ∧ Text.Cut isSeparator b bs ∧
    ∀ i < max as.length bs.length, Component.Same (componentAt as i) (componentAt bs i)

/-- `Newer a b` says that, with the shorter list of components filled up with `0`, the component of
`a` sorts after that of `b` at the first index where the two are not the same. -/
def Newer (a b : Text) : Prop :=
  ∃ as bs, Text.Cut isSeparator a as ∧ Text.Cut isSeparator b bs ∧
    ∃ i < max as.length bs.length, Component.After (componentAt as i) (componentAt bs i) ∧
      ∀ j < i, Component.Same (componentAt as j) (componentAt bs j)

/-- `Agree a b` says that the components of two version-ids are the same at every index that both
have. -/
def Agree (a b : Text) : Prop :=
  ∃ as bs, Text.Cut isSeparator a as ∧ Text.Cut isSeparator b bs ∧
    ∀ i < min as.length bs.length, Component.Same (componentAt as i) (componentAt bs i)

/-! ## The relations on the components that are computed -/

theorem equal_iff {a b : Text} :
    Equal a b ↔ ∀ i < max (components a).length (components b).length,
      Component.Same (componentAt (components a) i) (componentAt (components b) i) := by
  simp only [Equal, Text.cut_iff, exists_and_left, exists_eq_left', components]

theorem newer_iff {a b : Text} :
    Newer a b ↔ ∃ i < max (components a).length (components b).length,
      Component.After (componentAt (components a) i) (componentAt (components b) i) ∧
        ∀ j < i,
          Component.Same (componentAt (components a) j) (componentAt (components b) j) := by
  simp only [Newer, Text.cut_iff, exists_and_left, exists_eq_left', components]

theorem agree_iff {a b : Text} :
    Agree a b ↔ ∀ i < min (components a).length (components b).length,
      Component.Same (componentAt (components a) i) (componentAt (components b) i) := by
  simp only [Agree, Text.cut_iff, exists_and_left, exists_eq_left', components]

/-! ## The first difference -/

theorem first_nonzero_nil : firstNonzero [] = 0 := rfl

/-- A difference of zero is passed over, any other one decides. -/
theorem first_nonzero_cons (d : Int) (rest : List Int) :
    firstNonzero (d :: rest) = if d = 0 then firstNonzero rest else d := by
  by_cases hd : d = 0
  · simp [firstNonzero, hd]
  · simp [firstNonzero, hd]

/-- The first difference is zero only if there is none. -/
theorem first_nonzero_eq_zero_iff {differences : List Int} :
    firstNonzero differences = 0 ↔ ∀ d ∈ differences, d = 0 := by
  induction differences with
  | nil => simp [first_nonzero_nil]
  | cons d rest ih =>
      rw [first_nonzero_cons, List.forall_mem_cons]
      by_cases hd : d = 0
      · simp [hd, ih]
      · simp [hd]

/-- A positive first difference stands at some index behind zeros only. -/
theorem first_nonzero_pos_iff {differences : List Int} :
    0 < firstNonzero differences ↔
      ∃ i, ∃ hi : i < differences.length, 0 < differences[i] ∧
        ∀ j (hj : j < i), differences[j] = 0 := by
  induction differences with
  | nil => simp [first_nonzero_nil]
  | cons d rest ih =>
      rw [first_nonzero_cons]
      by_cases hd : d = 0
      · -- Behind a zero, an index of the rest is one less than that of the whole list.
        rw [if_pos hd, ih]
        constructor
        · rintro ⟨i, hi, hpos, hzero⟩
          refine ⟨i + 1, by simpa using hi, by simpa using hpos, ?_⟩
          rintro (_ | j) hj
          · simpa using hd
          · simpa using hzero j (by omega)
        · rintro ⟨_ | i, hi, hpos, hzero⟩
          · simp only [List.getElem_cons_zero] at hpos
            omega
          · refine ⟨i, by simpa using hi, by simpa using hpos, fun j hj => ?_⟩
            simpa using hzero (j + 1) (by omega)
      · rw [if_neg hd]
        constructor
        · intro hpos
          exact ⟨0, by simp, by simpa using hpos, by simp⟩
        · rintro ⟨_ | i, hi, hpos, hzero⟩
          · simpa using hpos
          · exact absurd (by simpa using hzero 0 (by omega)) hd

/-- Opposite differences have an opposite first difference. -/
theorem first_nonzero_neg (differences : List Int) :
    firstNonzero (differences.map (- ·)) = -firstNonzero differences := by
  induction differences with
  | nil => rfl
  | cons d rest ih =>
      rw [List.map_cons, first_nonzero_cons, first_nonzero_cons, ih]
      by_cases hd : d = 0
      · simp [hd]
      · simp [hd]

/-! ## The differences at each index -/

/-- Fillers at the end of a list make no difference where it goes on with fillers anyway. -/
theorem get_d_append_replicate {α : Type} (filler : α) (xs : List α) (count i : Nat) :
    (xs ++ List.replicate count filler).getD i filler = xs.getD i filler := by
  rw [List.getD_eq_getElem?_getD, List.getD_eq_getElem?_getD, List.getElem?_append]
  split
  case isTrue => rfl
  case isFalse hi =>
    have hbehind : xs[i]? = none := List.getElem?_eq_none (by omega)
    rw [hbehind, List.getElem?_replicate]
    split <;> rfl

theorem component_at_eq (components : List Text) (i : Nat) :
    componentAt components i = components[i]?.getD missing :=
  List.getD_eq_getElem?_getD

/-- The differences with filling, listed by index up to the longer of the two lists. -/
theorem filled_differences_eq (as bs : List Text) :
    filledDifferences as bs =
      (List.range (max as.length bs.length)).map fun i =>
        Component.difference (componentAt as i) (componentAt bs i) := by
  apply List.ext_getElem?
  intro i
  rw [filledDifferences, List.getElem?_zipWithAll, List.getElem?_map]
  by_cases hi : i < max as.length bs.length
  · rw [List.getElem?_range hi, Option.map_some, component_at_eq, component_at_eq]
    -- Below the longer length, at most one of the two components is missing.
    cases ha : as[i]? with
    | none =>
        cases hb : bs[i]? with
        | none =>
            rw [List.getElem?_eq_none_iff] at ha hb
            omega
        | some b => rfl
    | some a => rfl
  · have ha : as[i]? = none := List.getElem?_eq_none (by omega)
    have hb : bs[i]? = none := List.getElem?_eq_none (by omega)
    rw [ha, hb, List.getElem?_eq_none (by simpa using hi)]
    rfl

/-- The differences without filling, listed by index up to the shorter of the two lists. -/
theorem common_differences_eq (as bs : List Text) :
    commonDifferences as bs =
      (List.range (min as.length bs.length)).map fun i =>
        Component.difference (componentAt as i) (componentAt bs i) := by
  apply List.ext_getElem
  · simp [commonDifferences]
  · intro i hleft hright
    simp only [List.length_map, List.length_range, Nat.lt_min] at hright
    simp [commonDifferences, component_at_eq, hright.1, hright.2]

/-! ## The comparisons -/

/-- The exact comparison is zero for equal version-ids. -/
theorem exact_difference_eq_zero_iff {a b : Text} : exactDifference a b = 0 ↔ Equal a b := by
  rw [equal_iff, exactDifference, filled_differences_eq, first_nonzero_eq_zero_iff,
    List.forall_mem_map]
  simp only [List.mem_range, Component.difference_eq_zero_iff]

/-- The exact comparison is positive if the first version-id is newer. -/
theorem exact_difference_pos_iff {a b : Text} : 0 < exactDifference a b ↔ Newer a b := by
  rw [newer_iff, exactDifference, filled_differences_eq, first_nonzero_pos_iff]
  simp only [List.length_map, List.length_range, List.getElem_map, List.getElem_range,
    exists_prop, Component.difference_eq_zero_iff, Component.difference_pos_iff]

/-- The exact comparison is not negative for version-ids that are equal or newer. -/
theorem exact_difference_nonneg_iff {a b : Text} :
    0 ≤ exactDifference a b ↔ Equal a b ∨ Newer a b := by
  rw [← exact_difference_eq_zero_iff, ← exact_difference_pos_iff]
  omega

/-- The prefix comparison is zero for version-ids that agree as far as both go. -/
theorem prefix_difference_eq_zero_iff {a b : Text} : prefixDifference a b = 0 ↔ Agree a b := by
  rw [agree_iff, prefixDifference, common_differences_eq, first_nonzero_eq_zero_iff,
    List.forall_mem_map]
  simp only [List.mem_range, Component.difference_eq_zero_iff]

/-- Exchanging the version-ids changes the sign of the exact comparison. -/
theorem exact_difference_swap (a b : Text) : exactDifference b a = -exactDifference a b := by
  unfold exactDifference
  rw [← first_nonzero_neg, filled_differences_eq, filled_differences_eq, List.map_map,
    Nat.max_comm]
  congr 1
  apply List.map_congr_left
  intro i _
  exact Component.difference_swap _ _

/-! ## Equal version-ids -/

/-- The exact comparison of a version-id with itself is zero. -/
theorem exact_difference_self (a : Text) : exactDifference a a = 0 := by
  have h := exact_difference_swap a a
  omega

theorem Equal.refl (a : Text) : Equal a a :=
  exact_difference_eq_zero_iff.1 (exact_difference_self a)

/-- Equal version-ids agree as far as both go. -/
theorem Equal.agree {a b : Text} (h : Equal a b) : Agree a b := by
  rw [agree_iff]
  intro i hi
  exact equal_iff.1 h i (lt_of_lt_of_le hi min_le_max)

end VersionMatch.VersionId
