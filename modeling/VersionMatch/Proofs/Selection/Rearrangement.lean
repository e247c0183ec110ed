import VersionMatch.Proofs.Rank
import VersionMatch.Proofs.Selection

/-!
# Selection and the order of the candidates

The selection passes over the releases once, so what it finds can depend on their order. If the
acceptable releases are clean it finds the first of the newest ones, as they are ordered by rank.
`select_rearranged` draws two consequences: releases in another order give an equally new one, and
the selection among two lists, one behind the other, is decided by the selections among each.
-/

namespace VersionMatch.Selection

open VersionId (Clean exactDifference exact_difference_swap rank exact_difference_pos_iff_rank
  exact_difference_nonneg_iff_rank exact_difference_nonpos_iff_rank)

/-- Among clean releases the pass finds one that obeys the law. -/
theorem is_newest_of_clean {releases : List Text} {newest : Text}
    (hclean : ∀ release ∈ releases, Clean release) (h : newest? releases = some newest) :
    IsNewest releases newest := by
  refine is_newest_of_transitive ?_ h
  intro a ha b hb c hc hab hbc
  rw [exact_difference_nonneg_iff_rank (hclean a ha) (hclean b hb)] at hab
  rw [exact_difference_nonneg_iff_rank (hclean b hb) (hclean c hc)] at hbc
  rw [exact_difference_nonneg_iff_rank (hclean a ha) (hclean c hc)]
  exact le_trans hbc hab

/-- Among clean releases the one that the pass finds has the highest rank. -/
theorem rank_le_of_newest {releases : List Text} {newest : Text}
    (hclean : ∀ release ∈ releases, Clean release) (h : newest? releases = some newest) :
    ∀ release ∈ releases, rank release ≤ rank newest := by
  intro release hrelease
  have hnewest := is_newest_of_clean hclean h
  rw [← exact_difference_nonneg_iff_rank (hclean newest hnewest.mem) (hclean release hrelease)]
  exact hnewest.not_older release hrelease

variable {xs ys : List Text}

/-- In whichever order clean releases come, the ones that are found are equally new. -/
theorem newest_perm (hclean : ∀ release ∈ xs, Clean release) (hperm : xs.Perm ys) :
    newest? xs = none ∧ newest? ys = none ∨
      ∃ first second, newest? xs = some first ∧ newest? ys = some second ∧
        exactDifference first second = 0 := by
  cases hfirst : newest? xs with
  | none =>
      have hnil := newest_eq_none_iff.1 hfirst
      rw [hnil] at hperm
      exact .inl ⟨rfl, newest_eq_none_iff.2 (List.nil_perm.1 hperm)⟩
  | some first =>
      cases hsecond : newest? ys with
      | none =>
          have hnil := newest_eq_none_iff.1 hsecond
          rw [hnil] at hperm
          rw [newest_eq_none_iff.2 (List.perm_nil.1 hperm)] at hfirst
          cases hfirst
      | some second =>
          have hnewest := is_newest_of_clean hclean hfirst
          have hother := is_newest_of_clean
            (fun release hrelease => hclean release (hperm.mem_iff.2 hrelease)) hsecond
          have hle := hnewest.not_older second (hperm.mem_iff.2 hother.mem)
          have hge := hother.not_older first (hperm.mem_iff.1 hnewest.mem)
          rw [exact_difference_swap] at hge
          exact .inr ⟨first, second, rfl, rfl, by omega⟩

/-- The release found in the first of two lists stays if the one in the second is not newer. -/
theorem newest_append_of_not_newer {held : Text} (hxs : ∀ release ∈ xs, Clean release)
    (hys : ∀ release ∈ ys, Clean release) (hheld : newest? xs = some held)
    (hnot : ∀ other ∈ newest? ys, ¬ 0 < exactDifference other held) :
    newest? (xs ++ ys) = some held := by
  have hcleanHeld := hxs held (mem_of_newest hheld)
  have hfold : newest? (xs ++ ys) = ys.foldl newer (newest? xs) := by
    rw [newest?, List.foldl_append, ← newest?]
  rw [hfold, hheld]
  refine fold_newer_of_not_older ?_
  intro release hrelease
  cases hother : newest? ys with
  | none =>
      rw [newest_eq_none_iff.1 hother] at hrelease
      cases hrelease
  | some other =>
      have hcleanOther := hys other (mem_of_newest hother)
      have hle : rank other ≤ rank held := by
        rw [← exact_difference_nonpos_iff_rank hcleanOther hcleanHeld]
        exact not_lt.1 (hnot other hother)
      rw [exact_difference_nonneg_iff_rank hcleanHeld (hys release hrelease)]
      exact le_trans (rank_le_of_newest hys hother release hrelease) hle

/-- The release found in the second of two lists is found in both together if it is newer than the
one found in the first. -/
theorem newest_append_of_newer {other : Text} (hxs : ∀ release ∈ xs, Clean release)
    (hys : ∀ release ∈ ys, Clean release) (hother : newest? ys = some other)
    (hnewer : ∀ held ∈ newest? xs, 0 < exactDifference other held) :
    newest? (xs ++ ys) = some other := by
  have hcleanOther := hys other (mem_of_newest hother)
  obtain ⟨before, after, hsplit, hbefore, hafter⟩ :=
    is_newest_iff.1 (is_newest_of_clean hys hother)
  refine IsNewest.newest_eq (is_newest_iff.2 ⟨xs ++ before, after, by simp [hsplit], ?_, hafter⟩)
  intro release hrelease
  rcases List.mem_append.1 hrelease with hrelease | hrelease
  · cases hheld : newest? xs with
    | none =>
        rw [newest_eq_none_iff.1 hheld] at hrelease
        cases hrelease
    | some held =>
        have hlt : rank held < rank other := by
          rw [← exact_difference_pos_iff_rank hcleanOther (hxs held (mem_of_newest hheld))]
          exact hnewer held hheld
        rw [exact_difference_pos_iff_rank hcleanOther (hxs release hrelease)]
        exact lt_of_le_of_lt (rank_le_of_newest hxs hheld release hrelease) hlt
  · exact hbefore release hrelease

/-- The selection among two lists of clean releases, one behind the other: what is found in the
first one stays unless what is found in the second one is newer. -/
theorem newest_append (hxs : ∀ release ∈ xs, Clean release) (hys : ∀ release ∈ ys, Clean release) :
    newest? (xs ++ ys) =
      if ∃ held ∈ newest? xs, ∀ other ∈ newest? ys, ¬ 0 < exactDifference other held
      then newest? xs else newest? ys := by
  split
  case isTrue h =>
    obtain ⟨held, hheld, hnot⟩ := h
    rw [newest_append_of_not_newer hxs hys hheld hnot]
    exact hheld.symm
  case isFalse h =>
    cases hother : newest? ys with
    | none =>
        cases hheld : newest? xs with
        | none =>
            rw [newest_eq_none_iff.1 hheld, newest_eq_none_iff.1 hother]
            rfl
        | some held =>
            exact absurd ⟨held, hheld, by simp [hother]⟩ h
    | some other =>
        refine newest_append_of_newer hxs hys hother ?_
        intro held hheld
        by_contra hnot
        refine h ⟨held, hheld, ?_⟩
        intro found hfound
        rw [hother] at hfound
        cases hfound
        exact hnot

/-- If the acceptable releases are clean, a rearranged list gives nothing if the list gives nothing,
and an equally new release if it gives one. Of two lists, one behind the other, the first decides
unless it gives nothing or the second gives a newer release. -/
theorem select_rearranged (versionString : Text) (xs ys : List Text)
    (hxs : ∀ release ∈ acceptable xs versionString, Clean release)
    (hys : ∀ release ∈ acceptable ys versionString, Clean release) :
    (xs.Perm ys →
      select? xs versionString = none ∧ select? ys versionString = none ∨
        ∃ first second, select? xs versionString = some first ∧
          select? ys versionString = some second ∧ exactDifference first second = 0) ∧
    select? (xs ++ ys) versionString =
      if ∃ held ∈ select? xs versionString, ∀ other ∈ select? ys versionString,
        ¬ 0 < exactDifference other held
      then select? xs versionString else select? ys versionString := by
  have happend : acceptable (xs ++ ys) versionString =
      acceptable xs versionString ++ acceptable ys versionString := List.filter_append _ _
  refine ⟨fun hperm => newest_perm hxs (hperm.filter _), ?_⟩
  rw [select?, happend]
  exact newest_append hxs hys

/-- Of the equal releases `2.0` and `2` the first one is selected, in either order and in both lists
together. The release `0x` is not clean, but it is not acceptable either. -/
theorem select_rearranged_equal :
    (∀ release ∈ acceptable [['2', '.', '0'], ['0', 'x'], ['2']] ['1', '+'], Clean release) ∧
    (∀ release ∈ acceptable [['2'], ['0', 'x'], ['2', '.', '0']] ['1', '+'], Clean release) ∧
    List.Perm [['2', '.', '0'], ['0', 'x'], ['2']] [['2'], ['0', 'x'], ['2', '.', '0']] ∧
    (∃ first second,
      select? [['2', '.', '0'], ['0', 'x'], ['2']] ['1', '+'] = some first ∧
      select? [['2'], ['0', 'x'], ['2', '.', '0']] ['1', '+'] = some second ∧
      exactDifference first second = 0) ∧
    select? ([['2', '.', '0'], ['0', 'x'], ['2']] ++ [['2'], ['0', 'x'], ['2', '.', '0']])
      ['1', '+'] = some ['2', '.', '0'] := by
  have hxs : ∀ release ∈ acceptable [['2', '.', '0'], ['0', 'x'], ['2']] ['1', '+'],
      Clean release := by decide
  have hys : ∀ release ∈ acceptable [['2'], ['0', 'x'], ['2', '.', '0']] ['1', '+'],
      Clean release := by decide
  have hperm : List.Perm [['2', '.', '0'], ['0', 'x'], ['2']]
      [['2'], ['0', 'x'], ['2', '.', '0']] := by decide
  obtain ⟨hequal, happend⟩ := select_rearranged ['1', '+'] _ _ hxs hys
  refine ⟨hxs, hys, hperm, (hequal hperm).resolve_left (by decide), ?_⟩
  rw [happend]
  decide

end VersionMatch.Selection
