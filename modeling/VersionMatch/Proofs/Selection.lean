import Mathlib.Data.List.Induction
import VersionMatch.Proofs.VersionId
import VersionMatch.Selection

/-!
# The newest acceptable release

`IsNewest` is the law that a selection is meant to obey: the release is at least as new as every
candidate and comes before all others that are as new. The selection makes a single pass and
compares every release with the best one so far only. `newest_eq_some_iff` says what that pass
finds for any list. Since the exact comparison is not transitive, this need not be the newest
release: `select_newest_iff` shows that the law holds exactly if some candidate obeys it, and that
there is one wherever the comparison is transitive.
-/

namespace VersionMatch.Selection

open VersionId (exactDifference exact_difference_self exact_difference_swap)

/-- `IsNewest releases newest` says that a release of the list is at least as new as every release
of the list, and the first one of those that are as new as itself. -/
structure IsNewest (releases : List Text) (newest : Text) : Prop where
  mem : newest ∈ releases
  not_older : ∀ release ∈ releases, 0 ≤ exactDifference newest release
  first : releases.find? (fun release => exactDifference newest release == 0) = some newest

/-- A release divides a list at a place where all before it are older and none behind it is
newer. -/
def LeadsAt (before : List Text) (newest : Text) (after : List Text) : Prop :=
  (∀ release ∈ before, 0 < exactDifference newest release) ∧
    ∀ release ∈ after, 0 ≤ exactDifference newest release

/-- A release is the newest of a list exactly if it leads the list at some place. -/
theorem is_newest_iff {releases : List Text} {newest : Text} :
    IsNewest releases newest ↔
      ∃ before after, releases = before ++ newest :: after ∧ LeadsAt before newest after := by
  constructor
  · intro ⟨hmem, hnotOlder, hfirst⟩
    obtain ⟨-, before, after, rfl, hbefore⟩ := List.find?_eq_some_iff_append.1 hfirst
    refine ⟨before, after, rfl, ?_, ?_⟩
    · intro release hrelease
      have hle := hnotOlder release (by simp [hrelease])
      have hne : exactDifference newest release ≠ 0 := by simpa using hbefore release hrelease
      omega
    · intro release hrelease
      exact hnotOlder release (by simp [hrelease])
  · intro ⟨before, after, hreleases, hbefore, hafter⟩
    subst hreleases
    refine ⟨by simp, ?_, ?_⟩
    · intro release hrelease
      rcases List.mem_append.1 hrelease with h | h
      · exact Int.le_of_lt (hbefore release h)
      · rcases List.mem_cons.1 h with h | h
        · rw [h, exact_difference_self]
        · exact hafter release h
    · refine List.find?_eq_some_iff_append.2 ⟨by simp [exact_difference_self], before, after, rfl, ?_⟩
      intro release hrelease
      have hlt := hbefore release hrelease
      simp
      omega

/-! ## One step and one pass -/

/-- A release that is newer than the best one so far, if there is one, takes its place. -/
theorem newer_of_newer {best : Option Text} {release : Text}
    (h : ∀ held ∈ best, 0 < exactDifference release held) :
    newer best release = some release := by
  cases best with
  | none => rfl
  | some held => simp [newer, h held rfl]

/-- The best release so far stays if it is at least as new. -/
theorem newer_of_not_older {held release : Text} (h : 0 ≤ exactDifference held release) :
    newer (some held) release = some held := by
  have hswap := exact_difference_swap held release
  have hnot : ¬ 0 < exactDifference release held := by omega
  simp [newer, hnot]

/-- The best release so far stays to the end if it is at least as new as all that follow. -/
theorem fold_newer_of_not_older {held : Text} {releases : List Text}
    (h : ∀ release ∈ releases, 0 ≤ exactDifference held release) :
    releases.foldl newer (some held) = some held := by
  induction releases with
  | nil => rfl
  | cons release rest ih =>
      rw [List.foldl_cons, newer_of_not_older (h release (by simp))]
      exact ih (fun later hlater => h later (by simp [hlater]))

theorem newest_append_singleton (releases : List Text) (release : Text) :
    newest? (releases ++ [release]) = newer (newest? releases) release := by
  simp [newest?]

/-- There is a newest release unless the list is empty. -/
theorem newest_eq_none_iff {releases : List Text} : newest? releases = none ↔ releases = [] := by
  cases releases using List.reverseRecOn with
  | nil => simp [newest?]
  | append_singleton releases release =>
      rw [newest_append_singleton]
      cases newest? releases with
      | none => simp [newer]
      | some held =>
          simp only [newer, List.append_eq_nil_iff, List.cons_ne_self, and_false, iff_false]
          split <;> simp

/-- What one pass finds: a release that is newer than the best of those before it, and at least as
new as each of those behind it. -/
theorem newest_eq_some_iff {releases : List Text} {newest : Text} :
    newest? releases = some newest ↔
      ∃ before after, releases = before ++ newest :: after ∧
        (∀ held ∈ newest? before, 0 < exactDifference newest held) ∧
        ∀ release ∈ after, 0 ≤ exactDifference newest release := by
  constructor
  · intro h
    induction releases using List.reverseRecOn with
    | nil => cases h
    | append_singleton releases release ih =>
        rw [newest_append_singleton] at h
        -- The last release takes the place of the best one before it, or leaves it as it is.
        by_cases hnewer : ∀ held ∈ newest? releases, 0 < exactDifference release held
        · rw [newer_of_newer hnewer] at h
          cases h
          exact ⟨releases, [], rfl, hnewer, by simp⟩
        · cases hbest : newest? releases with
          | none => simp [hbest] at hnewer
          | some held =>
              have hnotOlder : 0 ≤ exactDifference held release := by
                have hswap := exact_difference_swap held release
                simp only [hbest, Option.mem_some_iff, forall_eq'] at hnewer
                omega
              rw [hbest, newer_of_not_older hnotOlder] at h
              cases h
              obtain ⟨before, after, rfl, hbefore, hafter⟩ := ih hbest
              refine ⟨before, after ++ [release], by simp, hbefore, ?_⟩
              intro later hlater
              rcases List.mem_append.1 hlater with hlater | hlater
              · exact hafter later hlater
              · rwa [List.mem_singleton.1 hlater]
  · intro ⟨before, after, hreleases, hbefore, hafter⟩
    have hstep : newest? (before ++ [newest]) = some newest := by
      rw [newest_append_singleton, newer_of_newer hbefore]
    subst hreleases
    calc
      newest? (before ++ newest :: after)
          = after.foldl newer (newest? (before ++ [newest])) := by simp [newest?]
      _ = after.foldl newer (some newest) := by rw [hstep]
      _ = some newest := fold_newer_of_not_older hafter

/-- The newest release is one of the list. -/
theorem mem_of_newest {releases : List Text} {newest : Text}
    (h : newest? releases = some newest) : newest ∈ releases := by
  obtain ⟨before, after, rfl, -, -⟩ := newest_eq_some_iff.1 h
  simp

/-! ## The law -/

/-- The pass finds the release that obeys the law, if there is one. -/
theorem IsNewest.newest_eq {releases : List Text} {newest : Text}
    (h : IsNewest releases newest) : newest? releases = some newest := by
  obtain ⟨before, after, rfl, hbefore, hafter⟩ := is_newest_iff.1 h
  exact newest_eq_some_iff.2
    ⟨before, after, rfl, fun held hheld => hbefore held (mem_of_newest hheld), hafter⟩

/-- On a list where being at least as new is transitive, the release that the pass finds obeys the
law: it is newer than the best one before it, which obeys the law for the shorter list. -/
theorem is_newest_of_transitive {releases : List Text} {newest : Text}
    (htransitive : ∀ a ∈ releases, ∀ b ∈ releases, ∀ c ∈ releases,
      0 ≤ exactDifference a b → 0 ≤ exactDifference b c → 0 ≤ exactDifference a c)
    (h : newest? releases = some newest) : IsNewest releases newest := by
  obtain ⟨before, after, hreleases, hbefore, hafter⟩ := newest_eq_some_iff.1 h
  refine is_newest_iff.2 ⟨before, after, hreleases, ?_, hafter⟩
  intro release hrelease
  cases hbest : newest? before with
  | none =>
      rw [newest_eq_none_iff.1 hbest] at hrelease
      cases hrelease
  | some held =>
      have hsub : ∀ a ∈ before, a ∈ releases := by
        intro a ha
        simp [hreleases, ha]
      have hheld : IsNewest before held := is_newest_of_transitive
        (fun a ha b hb c hc => htransitive a (hsub a ha) b (hsub b hb) c (hsub c hc)) hbest
      have hnewest : newest ∈ releases := by simp [hreleases]
      have hlt := hbefore held hbest
      have hle := hheld.not_older release hrelease
      have hge : 0 ≤ exactDifference newest release :=
        htransitive newest hnewest held (hsub held hheld.mem) release (hsub release hrelease)
          (Int.le_of_lt hlt) hle
      -- If the two were equal, the one held before would be as new as the newest.
      have hne : exactDifference newest release ≠ 0 := by
        intro hzero
        have hback := htransitive held (hsub held hheld.mem) release (hsub release hrelease)
          newest hnewest hle (by rw [exact_difference_swap, hzero]; decide)
        rw [exact_difference_swap] at hback
        omega
      omega
termination_by releases.length
decreasing_by
  simp only [hreleases, List.length_append, List.length_cons]
  omega

/-- The selection finds nothing exactly if no release is acceptable, and otherwise one of the
acceptable releases. It obeys the law exactly if there is an acceptable release that leads the
others, in particular if being at least as new is transitive on the acceptable releases. -/
theorem select_newest_iff (releases : List Text) (versionString : Text) :
    (select? releases versionString = none ↔ acceptable releases versionString = []) ∧
    (∀ newest, select? releases versionString = some newest →
      newest ∈ acceptable releases versionString) ∧
    ((∀ newest, select? releases versionString = some newest →
        IsNewest (acceptable releases versionString) newest) ↔
      acceptable releases versionString = [] ∨
        ∃ before newest after,
          acceptable releases versionString = before ++ newest :: after ∧
          LeadsAt before newest after) ∧
    ((∀ a ∈ acceptable releases versionString, ∀ b ∈ acceptable releases versionString,
        ∀ c ∈ acceptable releases versionString,
        0 ≤ exactDifference a b → 0 ≤ exactDifference b c → 0 ≤ exactDifference a c) →
      ∀ newest, select? releases versionString = some newest →
        IsNewest (acceptable releases versionString) newest) := by
  unfold select?
  generalize acceptable releases versionString = candidates
  refine ⟨newest_eq_none_iff, fun newest h => mem_of_newest h, ?_,
    fun htransitive newest h => is_newest_of_transitive htransitive h⟩
  constructor
  · intro hlaw
    cases hbest : newest? candidates with
    | none => exact .inl (newest_eq_none_iff.1 hbest)
    | some newest =>
        obtain ⟨before, after, hsplit⟩ := is_newest_iff.1 (hlaw newest hbest)
        exact .inr ⟨before, newest, after, hsplit⟩
  · intro hleads newest hbest
    rcases hleads with hnil | ⟨before, leader, after, hsplit⟩
    · rw [newest_eq_none_iff.2 hnil] at hbest
      cases hbest
    · have hleader : IsNewest candidates leader := is_newest_iff.2 ⟨before, after, hsplit⟩
      rw [hleader.newest_eq] at hbest
      cases hbest
      exact hleader

/-- The law fails for `09`, `9` and `1rc`: the last one is selected, since it sorts after `09` as a
text, although `9` sorts after it and is at least as new as all three. -/
theorem select_older_release :
    acceptable [['0', '9'], ['9'], ['1', 'r', 'c']] ['0', '+'] =
      [['0', '9'], ['9'], ['1', 'r', 'c']] ∧
    select? [['0', '9'], ['9'], ['1', 'r', 'c']] ['0', '+'] = some ['1', 'r', 'c'] ∧
    exactDifference ['1', 'r', 'c'] ['9'] < 0 ∧
    (∀ release ∈ acceptable [['0', '9'], ['9'], ['1', 'r', 'c']] ['0', '+'],
      0 ≤ exactDifference ['9'] release) ∧
    ¬ IsNewest (acceptable [['0', '9'], ['9'], ['1', 'r', 'c']] ['0', '+']) ['1', 'r', 'c'] := by
  refine ⟨by decide, by decide, by decide, by decide, ?_⟩
  intro h
  exact absurd (h.not_older ['9'] (by decide)) (by decide)

end VersionMatch.Selection
