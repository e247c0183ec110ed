import Mathlib.Data.List.GetD
import VersionMatch.Proofs.VersionId.Surplus

/-!
# Other spellings of a version-id

The separators of a version-id can be exchanged for one another, since the comparisons only see the
components between them. A separator and `0` can be appended too, since the exact comparison takes
`0` for a component that is missing. It does not see where the components of a version-id end:
`exact_difference_congr` states that only the component at each index counts, filled in or not. From
this it follows that another spelling compares alike with every version-id.
-/

namespace VersionMatch.VersionId

open Component (difference)

/-- `Reseparated a b` says that `b` is `a` with any of its separators replaced by other ones. -/
def Reseparated (a b : Text) : Prop :=
  List.Forall₂ (fun c d => d = c ∨ isSeparator c = true ∧ isSeparator d = true) a b

/-- `Respelled a b` says that `b` is `a` with any of its separators replaced by other ones, and then
with a separator and `0` appended any number of times. -/
inductive Respelled (a : Text) : Text → Prop where
  | reseparated (b) : Reseparated a b → Respelled a b
  | appended (b separator) :
      Respelled a b → isSeparator separator = true → Respelled a (b ++ [separator, '0'])

/-! ## The components of another spelling -/

/-- Exchanging separators keeps the components. -/
theorem Reseparated.components_eq {a b : Text} (h : Reseparated a b) :
    components b = components a := by
  unfold components
  induction h with
  | nil => rfl
  | @cons c d a b hfirst _ ih =>
      rcases hfirst with rfl | ⟨hc, hd⟩
      · cases hd : isSeparator d with
        | true => rw [Text.spans_cons_delimiter b hd, Text.spans_cons_delimiter a hd, ih]
        | false => rw [Text.spans_cons_other b hd, Text.spans_cons_other a hd, ih]
      · rw [Text.spans_cons_delimiter b hd, Text.spans_cons_delimiter a hc, ih]

/-- A separator and `0` at the end make one more component. -/
theorem components_append_zero (a : Text) {separator : Char} (h : isSeparator separator = true) :
    components (a ++ [separator, '0']) = components a ++ [missing] := by
  have hzero : Text.spans isSeparator ['0'] = [missing] :=
    Text.spans_of_free (List.forall_mem_singleton.2 rfl)
  rw [components, Text.spans_append_cons a ['0'] h, hzero, components]

/-- Another spelling has the same component at each index, or `0` where there was none. -/
theorem Respelled.component_at {a b : Text} (h : Respelled a b) (i : Nat) :
    componentAt (components b) i = componentAt (components a) i := by
  induction h with
  | reseparated b h => rw [h.components_eq]
  | appended b separator _ hseparator ih =>
      -- The new component stands where `0` was filled in.
      rw [← ih, components_append_zero b hseparator]
      exact get_d_append_replicate missing (components b) 1 i

/-! ## The comparisons of another spelling -/

/-- Behind the last components of both sides there are no differences any more. -/
theorem first_nonzero_behind {as bs : List Text} {n : Nat} (ha : as.length ≤ n)
    (hb : bs.length ≤ n) (count : Nat) :
    firstNonzero (((List.range count).map (n + ·)).map fun i =>
      difference (componentAt as i) (componentAt bs i)) = 0 := by
  rw [first_nonzero_eq_zero_iff, List.map_map, List.forall_mem_map]
  intro i _
  have hleft : componentAt as (n + i) = missing := List.getD_eq_default _ _ (by omega)
  have hright : componentAt bs (n + i) = missing := List.getD_eq_default _ _ (by omega)
  rw [Function.comp_apply, hleft, hright]
  rfl

/-- The exact comparison may go on behind the last components. -/
theorem exact_difference_eq_of_le {a b : Text} {n : Nat}
    (h : max (components a).length (components b).length ≤ n) :
    exactDifference a b = firstNonzero ((List.range n).map fun i =>
      difference (componentAt (components a) i) (componentAt (components b) i)) := by
  obtain ⟨count, rfl⟩ := Nat.exists_eq_add_of_le h
  rw [List.range_add, List.map_append, first_nonzero_append,
    first_nonzero_behind (le_max_left _ _) (le_max_right _ _), ← filled_differences_eq,
    ← exactDifference]
  split
  case isTrue hzero => exact hzero
  case isFalse => rfl

/-- For the exact comparison only the component at each index counts. -/
theorem exact_difference_congr {a b : Text}
    (h : ∀ i, componentAt (components b) i = componentAt (components a) i) (c : Text) :
    exactDifference b c = exactDifference a c := by
  have hb : max (components b).length (components c).length ≤
      (components a).length + (components b).length + (components c).length := by omega
  have ha : max (components a).length (components c).length ≤
      (components a).length + (components b).length + (components c).length := by omega
  rw [exact_difference_eq_of_le hb, exact_difference_eq_of_le ha]
  simp only [h]

/-- Another spelling compares alike with every version-id, on either side. -/
theorem Respelled.exact_difference_eq {a b : Text} (h : Respelled a b) (c : Text) :
    exactDifference b c = exactDifference a c ∧ exactDifference c b = exactDifference c a := by
  have heq := exact_difference_congr h.component_at c
  refine ⟨heq, ?_⟩
  rw [exact_difference_swap b, exact_difference_swap a, heq]

/-- As long as nothing is appended, this also holds of the prefix comparison. -/
theorem Reseparated.prefix_difference_eq {a b : Text} (h : Reseparated a b) (c : Text) :
    prefixDifference b c = prefixDifference a c ∧ prefixDifference c b = prefixDifference c a := by
  simp only [prefixDifference, h.components_eq, and_self]

end VersionMatch.VersionId
