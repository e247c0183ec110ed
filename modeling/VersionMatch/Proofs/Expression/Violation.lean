import Mathlib.Data.Char
import Mathlib.Data.List.Basic
import Mathlib.Data.Nat.Find
import VersionMatch.Proofs.Expression.Problem

/-!
# The violations of a version-id

A version-id can violate the grammar in several ways and at several places. `Violated` lists them
with their places. The check looks for one kind of violation after the other, so it finds the one
whose kind comes first, and of the forbidden characters the one with the smallest code point. This
is `Named`, by `problem_eq_some_iff`. A reader from left to right would meet another one first, the
one that is `Leftmost`. `leftmost_iff_in_order` says of which version-ids the two are the same.
-/

namespace VersionMatch.VersionId

/-- What is wrong with the version-id of a simple-element, and at which index: a forbidden
character, a separator at the beginning or at the end, or the second one of two in a row. -/
inductive Violated (simple versionId : Text) : Problem → Nat → Prop where
  | forbidden (c i) :
      versionId[i]? = some c → c ∈ forbidden →
      Violated simple versionId (.forbiddenCharacter c simple) i
  | leading (c) :
      versionId[0]? = some c → isSeparator c = true →
      Violated simple versionId (.leadingSeparator simple) 0
  | trailing (c i) :
      versionId[i]? = some c → versionId.length = i + 1 → isSeparator c = true →
      Violated simple versionId (.trailingSeparator simple) i
  | adjacent (c d i) :
      versionId[i]? = some c → versionId[i + 1]? = some d →
      isSeparator c = true → isSeparator d = true →
      Violated simple versionId (.adjacentSeparators simple) (i + 1)

/-- A violation that stands at an index such that none stands at a smaller one. -/
def Leftmost (simple versionId : Text) (problem : Problem) : Prop :=
  ∃ i, Violated simple versionId problem i ∧
    ∀ other j, Violated simple versionId other j → i ≤ j

/-- A violation whose kind comes first: forbidden characters in the order of their code points, then
a separator at the beginning, then one at the end, then two in a row. -/
inductive Named (simple versionId : Text) : Problem → Prop where
  | forbidden (c i) :
      Violated simple versionId (.forbiddenCharacter c simple) i →
      (∀ d j, Violated simple versionId (.forbiddenCharacter d simple) j → c ≤ d) →
      Named simple versionId (.forbiddenCharacter c simple)
  | leading (i) :
      (∀ c j, ¬ Violated simple versionId (.forbiddenCharacter c simple) j) →
      Violated simple versionId (.leadingSeparator simple) i →
      Named simple versionId (.leadingSeparator simple)
  | trailing (i) :
      (∀ c j, ¬ Violated simple versionId (.forbiddenCharacter c simple) j) →
      (∀ j, ¬ Violated simple versionId (.leadingSeparator simple) j) →
      Violated simple versionId (.trailingSeparator simple) i →
      Named simple versionId (.trailingSeparator simple)
  | adjacent (i) :
      (∀ c j, ¬ Violated simple versionId (.forbiddenCharacter c simple) j) →
      (∀ j, ¬ Violated simple versionId (.leadingSeparator simple) j) →
      (∀ j, ¬ Violated simple versionId (.trailingSeparator simple) j) →
      Violated simple versionId (.adjacentSeparators simple) i →
      Named simple versionId (.adjacentSeparators simple)

/-- The order of the kinds agrees with the order of the places. If there is a forbidden character,
no separator stands in front of the first one at the beginning or next to another, and no forbidden
character behind it has a smaller code point. If there is none, a separator at the end comes only
with one at the beginning or without two in a row in front of it. -/
inductive InOrder (versionId : Text) : Prop where
  | forbidden (before c after) :
      versionId = before ++ c :: after → c ∈ forbidden →
      (∀ d ∈ before, d ∉ forbidden) → hasLeadingSeparator before = false →
      hasAdjacentSeparators before = false →
      (∀ d ∈ after, d ∈ forbidden → c ≤ d) → InOrder versionId
  | separators :
      (∀ c ∈ versionId, c ∉ forbidden) →
      hasTrailingSeparator versionId = false ∨ hasLeadingSeparator versionId = true ∨
        hasAdjacentSeparators versionId.dropLast = false →
      InOrder versionId

variable {simple versionId before after : Text} {problem : Problem} {i : Nat}

/-! ## Places -/

theorem Violated.lt_length (h : Violated simple versionId problem i) : i < versionId.length := by
  cases h with
  | forbidden c i hget | leading c hget | trailing c i hget =>
      exact (List.getElem?_eq_some_iff.1 hget).1
  | adjacent c d i _ hget => exact (List.getElem?_eq_some_iff.1 hget).1

/-- A violation stays one when more characters follow, unless it is about the end. -/
theorem Violated.append (h : Violated simple before problem i)
    (hkind : problem ≠ .trailingSeparator simple) :
    Violated simple (before ++ after) problem i := by
  have hget : ∀ {k : Nat} {c : Char}, before[k]? = some c → (before ++ after)[k]? = some c := by
    intro k c hc
    rw [List.getElem?_append_left (List.getElem?_eq_some_iff.1 hc).1]
    exact hc
  cases h with
  | forbidden c i hc hforbidden => exact .forbidden c i (hget hc) hforbidden
  | leading c hc hseparator => exact .leading c (hget hc) hseparator
  | trailing => exact absurd rfl hkind
  | adjacent c d i hc hd hleft hright => exact .adjacent c d i (hget hc) (hget hd) hleft hright

/-- A violation in front of some of the characters does not depend on them. -/
theorem Violated.of_append (h : Violated simple (before ++ after) problem i)
    (hi : i < before.length) (hafter : after ≠ []) : Violated simple before problem i := by
  have hget : ∀ {k : Nat} {c : Char}, k < before.length → (before ++ after)[k]? = some c →
      before[k]? = some c := by
    intro k c hk hc
    rw [List.getElem?_append_left hk] at hc
    exact hc
  cases h with
  | forbidden c i hc hforbidden => exact .forbidden c i (hget hi hc) hforbidden
  | leading c hc hseparator => exact .leading c (hget hi hc) hseparator
  | trailing c i _ hlength =>
      have hpos := List.length_pos_iff.2 hafter
      rw [List.length_append] at hlength
      omega
  | adjacent c d i hc hd hleft hright =>
      exact .adjacent c d i (hget (Nat.lt_of_succ_lt hi) hc) (hget hi hd) hleft hright

/-! ## The checks of each kind -/

theorem violated_forbidden_iff {c : Char} :
    (∃ i, Violated simple versionId (.forbiddenCharacter c simple) i) ↔
      c ∈ versionId ∧ c ∈ forbidden := by
  rw [List.mem_iff_getElem?]
  constructor
  · intro ⟨i, h⟩
    cases h with
    | forbidden _ _ hget hforbidden => exact ⟨⟨i, hget⟩, hforbidden⟩
  · intro ⟨⟨i, hget⟩, hforbidden⟩
    exact ⟨i, .forbidden c i hget hforbidden⟩

theorem forall_not_violated_forbidden_iff :
    (∀ c i, ¬ Violated simple versionId (.forbiddenCharacter c simple) i) ↔
      ∀ c ∈ versionId, c ∉ forbidden := by
  simp only [← not_exists, violated_forbidden_iff, not_and]

theorem has_leading_separator_iff (simple versionId : Text) :
    hasLeadingSeparator versionId = true ↔
      ∃ i, Violated simple versionId (.leadingSeparator simple) i := by
  rw [hasLeadingSeparator, List.head?_eq_getElem?, Option.any_eq_true]
  constructor
  · rintro ⟨c, hget, hseparator⟩
    exact ⟨0, .leading c hget hseparator⟩
  · rintro ⟨_, h⟩
    cases h with
    | leading c hget hseparator => exact ⟨c, hget, hseparator⟩

theorem has_trailing_separator_iff (simple versionId : Text) :
    hasTrailingSeparator versionId = true ↔
      ∃ i, Violated simple versionId (.trailingSeparator simple) i := by
  rw [hasTrailingSeparator, List.getLast?_eq_getElem?, Option.any_eq_true]
  constructor
  · rintro ⟨c, hget, hseparator⟩
    have hlast : versionId.length - 1 < versionId.length := (List.getElem?_eq_some_iff.1 hget).1
    exact ⟨_, .trailing c _ hget (by omega) hseparator⟩
  · rintro ⟨i, h⟩
    cases h with
    | trailing c i hget hlength hseparator =>
        rw [hlength]
        exact ⟨c, hget, hseparator⟩

theorem has_adjacent_separators_iff (simple versionId : Text) :
    hasAdjacentSeparators versionId = true ↔
      ∃ i, Violated simple versionId (.adjacentSeparators simple) i := by
  rw [hasAdjacentSeparators, List.any_eq_true]
  constructor
  · rintro ⟨⟨c, d⟩, hmem, hseparators⟩
    obtain ⟨i, hget⟩ := List.mem_iff_getElem?.1 hmem
    rw [List.getElem?_zip_eq_some, List.getElem?_tail] at hget
    rw [Bool.and_eq_true] at hseparators
    exact ⟨i + 1, .adjacent c d i hget.1 hget.2 hseparators.1 hseparators.2⟩
  · rintro ⟨_, h⟩
    cases h with
    | adjacent c d i hc hd hleft hright =>
        refine ⟨(c, d), List.mem_iff_getElem?.2 ⟨i, ?_⟩, ?_⟩
        · rw [List.getElem?_zip_eq_some, List.getElem?_tail]
          exact ⟨hc, hd⟩
        · rw [hleft, hright]
          rfl

/-- A check for a violation fails exactly if the violation stands nowhere. -/
theorem eq_false_iff_forall_not {check : Bool} {P : Nat → Prop} (h : check = true ↔ ∃ i, P i) :
    check = false ↔ ∀ i, ¬ P i := by
  rw [← Bool.not_eq_true, h, not_exists]

/-- The forbidden character that the check finds has the smallest code point of all. -/
theorem forbidden_eq_some {c : Char} (h : forbidden? versionId = some c) :
    c ∈ versionId ∧ c ∈ forbidden ∧ ∀ d ∈ versionId, d ∈ forbidden → c ≤ d := by
  have hsorted : forbidden.Pairwise (· ≤ ·) := by decide
  obtain ⟨hmem, smaller, greater, hsplit, hsmaller⟩ := List.find?_eq_some_iff_append.1 h
  refine ⟨List.contains_iff_mem.1 hmem, by simp [hsplit], ?_⟩
  intro d hd hforbidden
  rw [hsplit] at hforbidden hsorted
  rcases List.mem_append.1 hforbidden with hfront | hback
  · have hother := hsmaller d hfront
    simp [hd] at hother
  · rcases List.mem_cons.1 hback with rfl | hbehind
    · exact le_rfl
    · exact List.rel_of_pairwise_cons (List.pairwise_append.1 hsorted).2.1 hbehind

/-- The check finds a violation whose kind comes first. -/
theorem named_of_problem (hne : versionId ≠ []) (h : problem? simple versionId = some problem) :
    Named simple versionId problem := by
  rw [problem?, List.isEmpty_eq_false_iff.2 hne, if_neg Bool.false_ne_true] at h
  cases hfound : forbidden? versionId with
  | some c =>
      rw [hfound] at h
      cases h
      obtain ⟨hmem, hforbidden, hleast⟩ := forbidden_eq_some hfound
      obtain ⟨i, hviolated⟩ := violated_forbidden_iff.2 ⟨hmem, hforbidden⟩
      refine .forbidden c i hviolated ?_
      intro d j hother
      obtain ⟨hd, hother⟩ := violated_forbidden_iff.1 ⟨j, hother⟩
      exact hleast d hd hother
  | none =>
      rw [hfound] at h
      dsimp only at h
      have hnone : ∀ c j, ¬ Violated simple versionId (.forbiddenCharacter c simple) j :=
        forall_not_violated_forbidden_iff.2 (forbidden_eq_none_iff.1 hfound)
      split at h
      case isTrue hleading =>
        cases h
        obtain ⟨i, hviolated⟩ := (has_leading_separator_iff simple versionId).1 hleading
        exact .leading i hnone hviolated
      case isFalse hleading =>
        rw [has_leading_separator_iff simple, not_exists] at hleading
        split at h
        case isTrue htrailing =>
          cases h
          obtain ⟨i, hviolated⟩ := (has_trailing_separator_iff simple versionId).1 htrailing
          exact .trailing i hnone hleading hviolated
        case isFalse htrailing =>
          rw [has_trailing_separator_iff simple, not_exists] at htrailing
          split at h
          case isTrue hadjacent =>
            cases h
            obtain ⟨i, hviolated⟩ := (has_adjacent_separators_iff simple versionId).1 hadjacent
            exact .adjacent i hnone hleading htrailing hviolated
          case isFalse => cases h

/-- Only one of the violations has the kind that comes first. -/
theorem Named.unique {other : Problem} (h : Named simple versionId problem)
    (hother : Named simple versionId other) : problem = other := by
  cases h with
  | forbidden c i hviolated hleast =>
      cases hother with
      | forbidden d j hother hall => rw [le_antisymm (hleast d j hother) (hall c i hviolated)]
      | leading _ hnone | trailing _ hnone | adjacent _ hnone => exact absurd hviolated (hnone c i)
  | leading i hnone hviolated =>
      cases hother with
      | forbidden d j hother => exact absurd hother (hnone d j)
      | leading => rfl
      | trailing _ _ hnot | adjacent _ _ hnot => exact absurd hviolated (hnot i)
  | trailing i hnone hleading hviolated =>
      cases hother with
      | forbidden d j hother => exact absurd hother (hnone d j)
      | leading j _ hother => exact absurd hother (hleading j)
      | trailing => rfl
      | adjacent _ _ _ hnot => exact absurd hviolated (hnot i)
  | adjacent i hnone hleading htrailing =>
      cases hother with
      | forbidden d j hother => exact absurd hother (hnone d j)
      | leading j _ hother => exact absurd hother (hleading j)
      | trailing j _ _ hother => exact absurd hother (htrailing j)
      | adjacent => rfl

/-- A violated version-id has a problem, whatever text it is read from. -/
theorem Violated.problem_ne_none {i : Nat} (h : Violated simple versionId problem i) :
    problem? simple versionId ≠ none := by
  rw [ne_eq, problem_eq_none_iff, no_empty_component_iff]
  simp only [← Bool.not_eq_true, has_leading_separator_iff simple,
    has_trailing_separator_iff simple, has_adjacent_separators_iff simple]
  intro ⟨⟨_, hleading, htrailing, hadjacent⟩, hforbidden⟩
  cases h with
  | forbidden c i hget hc => exact hforbidden c (List.mem_of_getElem? hget) hc
  | leading c hget hc => exact hleading ⟨0, .leading c hget hc⟩
  | trailing c i hget hlength hc => exact htrailing ⟨i, .trailing c i hget hlength hc⟩
  | adjacent c d i hleft hright hc hd => exact hadjacent ⟨i + 1, .adjacent c d i hleft hright hc hd⟩

/-- What is wrong with a version-id is the violation whose kind comes first. -/
theorem problem_eq_some_iff (hne : versionId ≠ []) :
    problem? simple versionId = some problem ↔ Named simple versionId problem := by
  constructor
  · exact named_of_problem hne
  · intro h
    obtain ⟨i, hviolated⟩ : ∃ i, Violated simple versionId problem i := by
      cases h with
      | forbidden _ i hviolated | leading i _ hviolated | trailing i _ _ hviolated
      | adjacent i _ _ _ hviolated => exact ⟨i, hviolated⟩
    obtain ⟨found, hfound⟩ := Option.ne_none_iff_exists'.1 hviolated.problem_ne_none
    rw [hfound, h.unique (named_of_problem hne hfound)]

/-! ## The order of the kinds and the order of the places -/

/-- Nothing is violated in front of some of the characters exactly if there is no forbidden
character, no separator at the beginning, and no two in a row. -/
theorem nothing_in_front_iff (hafter : after ≠ []) :
    (∀ other j, Violated simple (before ++ after) other j → before.length ≤ j) ↔
      (∀ c ∈ before, c ∉ forbidden) ∧ hasLeadingSeparator before = false ∧
        hasAdjacentSeparators before = false := by
  constructor
  · intro h
    have hnot : ∀ problem j, problem ≠ .trailingSeparator simple →
        ¬ Violated simple before problem j := by
      intro problem j hkind hviolated
      have hlt := hviolated.lt_length
      have hle := h problem j (hviolated.append hkind)
      omega
    refine ⟨?_, ?_, ?_⟩
    · intro c hmem hforbidden
      obtain ⟨j, hviolated⟩ := violated_forbidden_iff.2 ⟨hmem, hforbidden⟩
      exact hnot _ j Problem.noConfusion hviolated
    · refine (eq_false_iff_forall_not (has_leading_separator_iff simple before)).2 ?_
      exact fun j => hnot _ j Problem.noConfusion
    · refine (eq_false_iff_forall_not (has_adjacent_separators_iff simple before)).2 ?_
      exact fun j => hnot _ j Problem.noConfusion
  · intro ⟨hforbidden, hleading, hadjacent⟩ other j hviolated
    by_contra hlt
    rw [eq_false_iff_forall_not (has_leading_separator_iff simple before)] at hleading
    rw [eq_false_iff_forall_not (has_adjacent_separators_iff simple before)] at hadjacent
    have hfront := hviolated.of_append (Nat.lt_of_not_le hlt) hafter
    cases hviolated with
    | forbidden c j =>
        obtain ⟨hmem, hc⟩ := violated_forbidden_iff.1 ⟨j, hfront⟩
        exact hforbidden c hmem hc
    | leading => exact hleading 0 hfront
    | trailing c j _ hlength =>
        have hpos := List.length_pos_iff.2 hafter
        rw [List.length_append] at hlength
        omega
    | adjacent c d j => exact hadjacent (j + 1) hfront

/-- A text with a forbidden character has a first one. -/
theorem exists_first_forbidden {c : Char} (hmem : c ∈ versionId)
    (hforbidden : c ∈ forbidden) :
    ∃ before first after, versionId = before ++ first :: after ∧ first ∈ forbidden ∧
      ∀ d ∈ before, d ∉ forbidden := by
  cases hfind : versionId.find? fun d => decide (d ∈ forbidden) with
  | none =>
      have hnot := List.find?_eq_none.1 hfind c hmem
      exact absurd (decide_eq_true hforbidden) hnot
  | some first =>
      obtain ⟨hfirst, before, after, hsplit, hbefore⟩ := List.find?_eq_some_iff_append.1 hfind
      refine ⟨before, first, after, hsplit, of_decide_eq_true hfirst, ?_⟩
      intro d hd
      simpa using hbefore d hd

/-- Without forbidden characters the order only depends on the separators. -/
theorem in_order_iff_of_none (hnone : ∀ c ∈ versionId, c ∉ forbidden) :
    InOrder versionId ↔
      hasTrailingSeparator versionId = false ∨ hasLeadingSeparator versionId = true ∨
        hasAdjacentSeparators versionId.dropLast = false := by
  constructor
  · intro h
    cases h with
    | forbidden before c after hsplit hforbidden =>
        exact absurd hforbidden (hnone c (by simp [hsplit]))
    | separators _ hkinds => exact hkinds
  · exact .separators hnone

theorem leftmost_forbidden_iff {c : Char}
    (hviolated : Violated simple versionId (.forbiddenCharacter c simple) i)
    (hleast : ∀ d j, Violated simple versionId (.forbiddenCharacter d simple) j → c ≤ d) :
    Leftmost simple versionId (.forbiddenCharacter c simple) ↔ InOrder versionId := by
  obtain ⟨hmem, hforbidden⟩ := violated_forbidden_iff.1 ⟨i, hviolated⟩
  constructor
  · intro ⟨k, hk, hall⟩
    obtain ⟨before, first, after, rfl, hfirst, hbefore⟩ := exists_first_forbidden hmem hforbidden
    have hle := hall _ _ (.forbidden first before.length (by simp) hfirst)
    -- The named character does not stand in front of the first one, so it is the first one.
    obtain ⟨rfl, rfl⟩ : k = before.length ∧ c = first := by
      cases hk with
      | forbidden _ _ hget _ =>
          rcases Nat.lt_or_eq_of_le hle with hlt | rfl
          · rw [List.getElem?_append_left hlt] at hget
            exact absurd hforbidden (hbefore c (List.mem_of_getElem? hget))
          · simpa [eq_comm] using hget
    obtain ⟨-, hleading, hadjacent⟩ := (nothing_in_front_iff (List.cons_ne_nil _ _)).1 hall
    refine .forbidden before c after rfl hfirst hbefore hleading hadjacent ?_
    intro d hd hother
    obtain ⟨j, hj⟩ := violated_forbidden_iff.2
      ⟨List.mem_append_right before (List.mem_cons_of_mem c hd), hother⟩
    exact hleast d j hj
  · intro horder
    cases horder with
    | forbidden before first after hsplit hfirst hbefore hleading hadjacent hafter =>
        subst hsplit
        obtain ⟨j, hj⟩ : ∃ j, Violated simple (before ++ first :: after)
            (.forbiddenCharacter first simple) j :=
          violated_forbidden_iff.2 ⟨by simp, hfirst⟩
        -- No forbidden character has a smaller code point than the first one.
        have hge : first ≤ c := by
          rcases List.mem_append.1 hmem with hfront | hback
          · exact absurd hforbidden (hbefore c hfront)
          · rcases List.mem_cons.1 hback with rfl | hbehind
            · exact le_rfl
            · exact hafter c hbehind hforbidden
        obtain rfl := le_antisymm (hleast first j hj) hge
        exact ⟨before.length, .forbidden c _ (by simp) hfirst,
          (nothing_in_front_iff (List.cons_ne_nil _ _)).2 ⟨hbefore, hleading, hadjacent⟩⟩
    | separators hnone => exact absurd hforbidden (hnone c hmem)

/-- No violation stands in front of a separator at the beginning. -/
theorem leftmost_leading (h : Violated simple versionId (.leadingSeparator simple) i) :
    Leftmost simple versionId (.leadingSeparator simple) := by
  cases h with
  | leading c hget hseparator => exact ⟨0, .leading c hget hseparator, fun _ j _ => Nat.zero_le j⟩

/-- A separator at the end is the last character. Only two separators in a row can stand in front
of it if nothing comes before it in the order of the kinds. -/
theorem leftmost_trailing_iff (hnone : ∀ c ∈ versionId, c ∉ forbidden)
    (hleading : ∀ j, ¬ Violated simple versionId (.leadingSeparator simple) j)
    (hviolated : Violated simple versionId (.trailingSeparator simple) i) :
    Leftmost simple versionId (.trailingSeparator simple) ↔
      hasAdjacentSeparators versionId.dropLast = false := by
  rcases List.eq_nil_or_concat' versionId with rfl | ⟨front, last, rfl⟩
  · exact absurd hviolated.lt_length (Nat.not_lt_zero i)
  · have hplace : ∀ {k}, Violated simple (front ++ [last]) (.trailingSeparator simple) k →
        k = front.length := by
      intro k hk
      cases hk with
      | trailing c k _ hlength _ => exact (Nat.succ.inj (by simpa using hlength)).symm
    have hfront : hasLeadingSeparator front = false := by
      refine (eq_false_iff_forall_not (has_leading_separator_iff simple front)).2 ?_
      exact fun j hj => hleading j (hj.append Problem.noConfusion)
    rw [List.dropLast_concat]
    constructor
    · intro ⟨k, hk, hall⟩
      obtain rfl := hplace hk
      exact ((nothing_in_front_iff (List.cons_ne_nil _ _)).1 hall).2.2
    · intro hadjacent
      obtain rfl := hplace hviolated
      refine ⟨front.length, hviolated, (nothing_in_front_iff (List.cons_ne_nil _ _)).2 ?_⟩
      exact ⟨fun c hc => hnone c (List.mem_append_left _ hc), hfront, hadjacent⟩

/-- If all violations are of one kind, one of them is the leftmost. -/
theorem leftmost_of_only (h : Violated simple versionId problem i)
    (honly : ∀ other j, Violated simple versionId other j → other = problem) :
    Leftmost simple versionId problem := by
  classical
  have hexists : ∃ k, Violated simple versionId problem k := ⟨i, h⟩
  refine ⟨Nat.find hexists, Nat.find_spec hexists, ?_⟩
  intro other j hother
  rw [honly other j hother] at hother
  exact Nat.find_min' hexists hother

/-- The violation whose kind comes first is the leftmost one exactly if the two orders agree. -/
theorem leftmost_iff_in_order (h : Named simple versionId problem) :
    Leftmost simple versionId problem ↔ InOrder versionId := by
  cases h with
  | forbidden c i hviolated hleast => exact leftmost_forbidden_iff hviolated hleast
  | leading i hnone hviolated =>
      rw [forall_not_violated_forbidden_iff] at hnone
      have hleading := (has_leading_separator_iff simple versionId).2 ⟨i, hviolated⟩
      rw [in_order_iff_of_none hnone, hleading]
      exact iff_of_true (leftmost_leading hviolated) (.inr (.inl rfl))
  | trailing i hnone hleading hviolated =>
      rw [forall_not_violated_forbidden_iff] at hnone
      have htrailing := (has_trailing_separator_iff simple versionId).2 ⟨i, hviolated⟩
      have hfirst : hasLeadingSeparator versionId = false :=
        (eq_false_iff_forall_not (has_leading_separator_iff simple versionId)).2 hleading
      rw [in_order_iff_of_none hnone, leftmost_trailing_iff hnone hleading hviolated, htrailing,
        hfirst]
      simp only [Bool.true_eq_false, Bool.false_eq_true, false_or]
  | adjacent i hnone hleading htrailing hviolated =>
      have honly : ∀ other j, Violated simple versionId other j →
          other = .adjacentSeparators simple := by
        intro other j hother
        cases hother with
        | forbidden c j hget hforbidden => exact absurd (.forbidden c j hget hforbidden) (hnone c j)
        | leading c hget hseparator => exact absurd (.leading c hget hseparator) (hleading 0)
        | trailing c j hget hlength hseparator =>
            exact absurd (.trailing c j hget hlength hseparator) (htrailing j)
        | adjacent => rfl
      have hlast : hasTrailingSeparator versionId = false :=
        (eq_false_iff_forall_not (has_trailing_separator_iff simple versionId)).2 htrailing
      rw [in_order_iff_of_none (forall_not_violated_forbidden_iff.1 hnone)]
      exact iff_of_true (leftmost_of_only hviolated honly) (.inl hlast)

end VersionMatch.VersionId
