import Mathlib.Data.List.DropRight
import Mathlib.Data.List.GetD
import VersionMatch.Proofs.Requirement

/-!
# The keys of a version-id

What the comparisons see of a component is its key: the value of a number, and any other component
as it is. Two components are the same exactly if their keys are equal, so the version-ids that the
exact comparison equates are those with the same list of keys up to zeros at the end.
`exact_difference_eq_zero_iff_keys` states this with `canonicalKeys`, which takes these zeros off,
and reads off that equality under the exact comparison is an equivalence relation. The comparison
as an order is not transitive on all texts, so this does not follow from its signs.
-/

namespace VersionMatch

namespace Component

/-- Reading a component decides whether it counts as a number. -/
theorem is_some_number_iff {component : Text} :
    (number? component).isSome = true ↔ IsNumber component := by
  rw [Option.isSome_iff_exists]
  constructor
  · intro ⟨value, hvalue⟩
    exact (number_eq_some_iff.1 hvalue).1
  · intro h
    exact ⟨decimalValue component, h.number_eq⟩

instance : DecidablePred IsNumber :=
  fun _ => decidable_of_iff _ is_some_number_iff

/-- What a comparison sees of a component. -/
inductive Key where
  | number (value : Nat)
  | text (component : Text)
  deriving DecidableEq

/-- The value of a component that counts as a number, and any other component itself. -/
def key (component : Text) : Key :=
  if IsNumber component then .number (decimalValue component) else .text component

theorem key_of_number {component : Text} (h : IsNumber component) :
    key component = .number (decimalValue component) :=
  if_pos h

theorem key_of_text {component : Text} (h : ¬ IsNumber component) :
    key component = .text component :=
  if_neg h

/-- Two components are the same to a comparison exactly if their keys are equal. -/
theorem same_iff_key_eq {a b : Text} : Same a b ↔ key a = key b := by
  by_cases ha : IsNumber a
  · by_cases hb : IsNumber b
    · rw [same_of_number ha hb, key_of_number ha, key_of_number hb, Key.number.injEq]
    · rw [same_of_text (fun h => hb h.2), key_of_number ha, key_of_text hb]
      constructor
      · rintro rfl
        exact absurd ha hb
      · nofun
  · by_cases hb : IsNumber b
    · rw [same_of_text (fun h => ha h.1), key_of_text ha, key_of_number hb]
      constructor
      · rintro rfl
        exact absurd hb ha
      · nofun
    · rw [same_of_text (fun h => ha h.1), key_of_text ha, key_of_text hb, Key.text.injEq]

end Component

namespace VersionId

open Component (Key key Same same_iff_key_eq)

/-! ## Lists that go on with a filler -/

section Filler

variable {α : Type} {filler : α}

/-- A list that does not end in a filler is not longer than a list that goes on alike. -/
theorem length_le_of_get_d_eq {xs ys : List α} (hlast : ys.getLast? ≠ some filler)
    (h : ∀ i, xs.getD i filler = ys.getD i filler) : ys.length ≤ xs.length := by
  by_contra hlt
  -- Otherwise the last entry of the longer list stands against a filler.
  have hfiller := h (ys.length - 1)
  rw [List.getD_eq_default _ _ (by omega), List.getD_eq_getElem _ _ (by omega)] at hfiller
  rw [List.getLast?_eq_getElem?, List.getElem?_eq_getElem (by omega), ← hfiller] at hlast
  exact hlast rfl

/-- Two lists that do not end in a filler are equal if they go on alike. -/
theorem eq_of_get_d_eq {xs ys : List α} (hxs : xs.getLast? ≠ some filler)
    (hys : ys.getLast? ≠ some filler) (h : ∀ i, xs.getD i filler = ys.getD i filler) :
    xs = ys := by
  have hle := length_le_of_get_d_eq hys h
  have hge := length_le_of_get_d_eq hxs fun i => (h i).symm
  refine List.ext_getElem (by omega) ?_
  intro i hi hj
  have hentry := h i
  rwa [List.getD_eq_getElem _ _ hi, List.getD_eq_getElem _ _ hj] at hentry

/-- One of two lists begins with the other exactly if they agree as far as both go. -/
theorem prefix_or_prefix_iff (filler : α) {xs ys : List α} :
    xs <+: ys ∨ ys <+: xs ↔
      ∀ i < min xs.length ys.length, xs.getD i filler = ys.getD i filler := by
  constructor
  · intro h i hi
    rw [List.getD_eq_getElem _ _ (by omega), List.getD_eq_getElem _ _ (by omega)]
    rcases h with h | h
    · exact h.getElem _
    · exact (h.getElem _).symm
  · intro h
    have hentry : ∀ i, ∀ hx : i < xs.length, ∀ hy : i < ys.length, xs[i] = ys[i] := by
      intro i hx hy
      have hentry := h i (by omega)
      rwa [List.getD_eq_getElem _ _ hx, List.getD_eq_getElem _ _ hy] at hentry
    rcases Nat.le_total xs.length ys.length with hle | hle
    · exact .inl (List.prefix_iff_getElem.2 ⟨hle, fun i hi => hentry i hi (by omega)⟩)
    · exact .inr (List.prefix_iff_getElem.2 ⟨hle, fun i hi => (hentry i (by omega) hi).symm⟩)

variable [DecidableEq α]

/-- Fillers at the end of a list can be taken off, since the list goes on with fillers anyway. -/
theorem get_d_rdrop_while (xs : List α) (i : Nat) :
    (xs.rdropWhile (· == filler)).getD i filler = xs.getD i filler := by
  induction xs using List.reverseRecOn with
  | nil => rfl
  | append_singleton xs x ih =>
      by_cases hx : x = filler
      · rw [List.rdropWhile_concat_pos _ _ _ (by simpa using hx), ih, hx]
        exact (get_d_append_replicate filler xs 1 i).symm
      · rw [List.rdropWhile_concat_neg _ _ _ (by simpa using hx)]

theorem get_last_rdrop_while (xs : List α) :
    (xs.rdropWhile (· == filler)).getLast? ≠ some filler := by
  intro hlast
  have hne : xs.rdropWhile (· == filler) ≠ [] := by
    intro hnil
    simp [hnil] at hlast
  rw [List.getLast?_eq_some_getLast hne, Option.some.injEq] at hlast
  exact List.rdropWhile_last_not _ _ hne (by simpa using hlast)

/-- Two lists go on alike exactly if they are equal once the fillers at the end are taken off. -/
theorem rdrop_while_eq_iff {xs ys : List α} :
    xs.rdropWhile (· == filler) = ys.rdropWhile (· == filler) ↔
      ∀ i, xs.getD i filler = ys.getD i filler := by
  constructor
  · intro h i
    rw [← get_d_rdrop_while xs, ← get_d_rdrop_while ys, h]
  · intro h
    refine eq_of_get_d_eq (get_last_rdrop_while xs) (get_last_rdrop_while ys) ?_
    intro i
    rw [get_d_rdrop_while, get_d_rdrop_while, h]

end Filler

/-! ## The keys of all components -/

/-- The keys of the components of a version-id, from left to right. -/
def keys (versionId : Text) : List Key :=
  (components versionId).map key

/-- The keys of a version-id without the zeros at the end. -/
def canonicalKeys (versionId : Text) : List Key :=
  (keys versionId).rdropWhile (· == .number 0)

theorem length_keys (versionId : Text) :
    (keys versionId).length = (components versionId).length :=
  List.length_map _

/-- The key of the component at an index, a missing one being filled in. -/
theorem key_component_at (versionId : Text) (i : Nat) :
    key (componentAt (components versionId) i) = (keys versionId).getD i (.number 0) := by
  have hmissing : key ['0'] = .number 0 := by decide
  rw [componentAt, keys, ← hmissing, List.getD_map]

/-- Version-ids are equal exactly if their keys are, at every index. -/
theorem equal_iff_keys {a b : Text} :
    Equal a b ↔ ∀ i, (keys a).getD i (.number 0) = (keys b).getD i (.number 0) := by
  simp only [equal_iff, same_iff_key_eq, ← key_component_at]
  constructor
  · intro h i
    by_cases hi : i < max (components a).length (components b).length
    · exact h i hi
    · -- Behind the last components, `0` stands against `0`.
      rw [componentAt, componentAt, List.getD_eq_default _ _ (by omega),
        List.getD_eq_default _ _ (by omega)]
  · intro h i _
    exact h i

/-- Version-ids are equal exactly if they have the same canonical keys. -/
theorem equal_iff_canonical_keys {a b : Text} :
    Equal a b ↔ canonicalKeys a = canonicalKeys b := by
  rw [equal_iff_keys, canonicalKeys, canonicalKeys, rdrop_while_eq_iff]

/-- Version-ids agree as far as both go exactly if the keys of one begin with those of the
other. -/
theorem agree_iff_keys {a b : Text} :
    Agree a b ↔ keys a <+: keys b ∨ keys b <+: keys a := by
  rw [agree_iff, prefix_or_prefix_iff (Key.number 0)]
  simp only [same_iff_key_eq, key_component_at, length_keys]

/-- The exact comparison equates the version-ids with the same keys up to zeros at the end, and
the prefix comparison those of which one has the first keys of the other. The former is an
equivalence relation on all texts, and equal releases meet the same simple-elements without a
modifier. -/
theorem exact_difference_eq_zero_iff_keys (a b : Text) :
    (exactDifference a b = 0 ↔ canonicalKeys a = canonicalKeys b) ∧
    (prefixDifference a b = 0 ↔ keys a <+: keys b ∨ keys b <+: keys a) ∧
    (Equivalence fun left right : Text => exactDifference left right = 0) ∧
    ∀ release other simple : Text, release ≠ [] → other ≠ [] →
      exactDifference release other = 0 →
      simple.getLast? ≠ some '+' → simple.getLast? ≠ some '*' →
      Requirement.meets release simple = Requirement.meets other simple := by
  have hequal : ∀ a b, exactDifference a b = 0 ↔ canonicalKeys a = canonicalKeys b := by
    intro a b
    rw [exact_difference_eq_zero_iff, equal_iff_canonical_keys]
  refine ⟨hequal a b, ?_, ?_, ?_⟩
  · rw [prefix_difference_eq_zero_iff, agree_iff_keys]
  · simp only [hequal]
    exact ⟨fun _ => rfl, Eq.symm, Eq.trans⟩
  · intro release other simple hrelease hother hzero hplus hstar
    rw [hequal] at hzero
    have hplain : ∀ modifier : Modifier, simple.getLast? ≠ some modifier.symbol :=
      Modifier.forall_iff.2 ⟨hplus, hstar⟩
    by_cases hne : simple = []
    · rw [hne, Requirement.meets_nil, Requirement.meets_nil]
    · rw [Bool.eq_iff_iff, Requirement.meets_plain_iff hne hplain,
        Requirement.meets_plain_iff hne hplain, equal_iff_canonical_keys,
        equal_iff_canonical_keys, hzero]
      simp [hrelease, hother]

/-- The version-ids `1.8` and `1.08.0` have the same canonical keys, and the two meet `1.8.00`
alike. -/
theorem exact_difference_eq_zero_iff_keys_zeros :
    exactDifference ['1', '.', '8'] ['1', '.', '0', '8', '.', '0'] = 0 ∧
    canonicalKeys ['1', '.', '0', '8', '.', '0'] = [.number 1, .number 8] ∧
    Requirement.meets ['1', '.', '8'] ['1', '.', '8', '.', '0', '0'] =
      Requirement.meets ['1', '.', '0', '8', '.', '0'] ['1', '.', '8', '.', '0', '0'] := by
  obtain ⟨hzero, -, -, hmeets⟩ :=
    exact_difference_eq_zero_iff_keys ['1', '.', '8'] ['1', '.', '0', '8', '.', '0']
  have hequal : exactDifference ['1', '.', '8'] ['1', '.', '0', '8', '.', '0'] = 0 :=
    hzero.2 (by decide)
  refine ⟨hequal, by decide, ?_⟩
  exact hmeets _ _ _ (by decide) (by decide) hequal (by decide) (by decide)

end VersionId

end VersionMatch
