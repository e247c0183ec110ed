import Mathlib.Data.List.Forall2
import Mathlib.Data.List.ReduceOption
import VersionMatch.Proofs.Text.Blank
import VersionMatch.Proofs.Text.Mark
import VersionMatch.ReleaseList

/-!
# What a line of a release list says

`Lists line found` describes the lines with a release and the lines without one: blanks around a
release, a comment behind it after a blank, or nothing but blanks and a comment. `lists_iff` shows
that these are all lines and that `release?` finds what they list. `of_lines_lists` is the
statement for whole lists: what is read from a list is a list of releases, and reading it once more
changes nothing.
-/

namespace VersionMatch.ReleaseList

open Text

/-- A text that a line can list: not empty, without blanks at its ends, and without a `#` at its
start or behind a blank. -/
structure IsRelease (release : Text) : Prop where
  ne_nil : release ≠ []
  trimmed : Trimmed release
  head_ne : release.head? ≠ some '#'
  not_behind_blank : ∀ before c after, release = before ++ c :: '#' :: after → isBlank c = false

/-- What a line lists. -/
inductive Lists : Text → Option Text → Prop where
  | release (before release after) : AllBlank before → IsRelease release → AllBlank after →
      Lists (before ++ release ++ after) (some release)
  | releaseAndComment (before release after comment) : AllBlank before → IsRelease release →
      AllBlank after → after ≠ [] →
      Lists (before ++ release ++ after ++ '#' :: comment) (some release)
  | blank (line) : AllBlank line → Lists line none
  | comment (before comment) : AllBlank before → Lists (before ++ '#' :: comment) none

variable {mayBegin : Bool} {text : Text}

/-! ## Cutting a comment off -/

/-- A text in which no comment begins stays as it is. -/
theorem before_comment_of_free (h : FreeOf '#' isBlank mayBegin text) :
    beforeComment mayBegin text = text := by
  induction text generalizing mayBegin with
  | nil => rfl
  | cons c rest ih =>
      obtain ⟨hhead, hrest⟩ := free_of_cons.1 h
      rw [beforeComment, if_neg (by simpa using hhead), ih hrest]

/-- A comment is cut off up to its end. -/
theorem before_comment_append (h : FreeOf '#' isBlank mayBegin text)
    (hbegin : countsBehind isBlank mayBegin text = true) (comment : Text) :
    beforeComment mayBegin (text ++ '#' :: comment) = text := by
  induction text generalizing mayBegin with
  | nil => simp [beforeComment, show mayBegin = true from hbegin]
  | cons c rest ih =>
      obtain ⟨hhead, hrest⟩ := free_of_cons.1 h
      rw [List.cons_append, beforeComment, if_neg (by simpa using hhead), ih hrest hbegin]

/-- What stands before the comment of a line has no comment, and it is followed by one or by
nothing. -/
theorem before_comment_split (mayBegin : Bool) (line : Text) :
    FreeOf '#' isBlank mayBegin (beforeComment mayBegin line) ∧
      (line = beforeComment mayBegin line ∨
        countsBehind isBlank mayBegin (beforeComment mayBegin line) = true ∧
          ∃ comment, line = beforeComment mayBegin line ++ '#' :: comment) := by
  induction line generalizing mayBegin with
  | nil => exact ⟨free_of_not_mem List.not_mem_nil, .inl rfl⟩
  | cons c rest ih =>
      by_cases hhead : mayBegin = true ∧ c = '#'
      · obtain ⟨rfl, rfl⟩ := hhead
        exact ⟨free_of_not_mem List.not_mem_nil, .inr ⟨rfl, rest, rfl⟩⟩
      · obtain ⟨hfree, hrest⟩ := ih (isBlank c)
        rw [beforeComment, if_neg (by simpa using hhead)]
        refine ⟨free_of_cons.2 ⟨hhead, hfree⟩, ?_⟩
        rcases hrest with hrest | ⟨hbegin, comment, hrest⟩
        · exact .inl (congrArg (c :: ·) hrest)
        · exact .inr ⟨hbegin, comment, congrArg (c :: ·) hrest⟩

/-! ## Blanks around a release -/

/-- The mark of a comment is not blank. -/
theorem hash_not_mem (h : AllBlank text) : '#' ∉ text := by
  intro hmem
  cases h '#' hmem

theorem may_begin_behind_blank (h : AllBlank text) : countsBehind isBlank true text = true := by
  rcases List.eq_nil_or_concat' text with rfl | ⟨before, c, rfl⟩
  · rfl
  · rw [counts_behind_concat]
    exact h c (by simp)

/-- With blanks around it, a text has no comment exactly if it has none on its own. -/
theorem comment_free_in_blanks {before after : Text} (hbefore : AllBlank before)
    (hafter : AllBlank after) :
    FreeOf '#' isBlank true (before ++ text ++ after) ↔ FreeOf '#' isBlank true text := by
  rw [free_of_around (hash_not_mem hbefore) (hash_not_mem hafter),
    may_begin_behind_blank hbefore]

theorem IsRelease.comment_free {release : Text} (h : IsRelease release) :
    FreeOf '#' isBlank true release :=
  free_of_iff.2 ⟨h.head_ne, h.not_behind_blank⟩

/-- A comment may begin behind a release only after a blank. -/
theorem may_begin_behind_release {before release after : Text} (hne : release ≠ [])
    (htrimmed : Trimmed release) (hafter : AllBlank after) :
    countsBehind isBlank true (before ++ release ++ after) = true ↔ after ≠ [] := by
  rw [counts_behind_append, counts_behind_append]
  rcases List.eq_nil_or_concat' after with rfl | ⟨blanks, blank, rfl⟩
  · -- The release does not end with a blank.
    obtain ⟨start, last, rfl⟩ := (List.eq_nil_or_concat' release).resolve_left hne
    rw [countsBehind, counts_behind_concat, htrimmed.last last (by simp)]
    simp
  · rw [counts_behind_concat, hafter blank (by simp)]
    simp

/-! ## Lines -/

theorem release_eq_some_iff {line release : Text} :
    release? line = some release ↔ release ≠ [] ∧ trim (beforeComment true line) = release := by
  simp only [release?, List.isEmpty_iff]
  constructor
  · intro h
    split at h
    · cases h
    next hne =>
      cases h
      exact ⟨hne, rfl⟩
  · intro ⟨hne, htrim⟩
    rw [htrim, if_neg hne]

theorem release_eq_none_iff {line : Text} :
    release? line = none ↔ AllBlank (beforeComment true line) := by
  rw [← trim_eq_nil_iff]
  simp [release?]

/-- What stands around a release and behind it does not matter. -/
theorem Lists.release_eq {line : Text} {found : Option Text} (h : Lists line found) :
    release? line = found := by
  cases h with
  | release before release after hbefore hrelease hafter =>
      refine release_eq_some_iff.2 ⟨hrelease.ne_nil, ?_⟩
      rw [before_comment_of_free
          ((comment_free_in_blanks hbefore hafter).2 hrelease.comment_free),
        trim_append hbefore hafter, trim_of_trimmed hrelease.trimmed]
  | releaseAndComment before release after comment hbefore hrelease hafter hne =>
      refine release_eq_some_iff.2 ⟨hrelease.ne_nil, ?_⟩
      rw [before_comment_append
          ((comment_free_in_blanks hbefore hafter).2 hrelease.comment_free)
          ((may_begin_behind_release hrelease.ne_nil hrelease.trimmed hafter).2 hne),
        trim_append hbefore hafter, trim_of_trimmed hrelease.trimmed]
  | blank line hline =>
      rw [release_eq_none_iff, before_comment_of_free (free_of_not_mem (hash_not_mem hline))]
      exact hline
  | comment before comment hbefore =>
      rw [release_eq_none_iff, before_comment_append (free_of_not_mem (hash_not_mem hbefore))
        (may_begin_behind_blank hbefore)]
      exact hbefore

/-- Every line lists what is found in it. -/
theorem lists_release (line : Text) : Lists line (release? line) := by
  obtain ⟨hfree, hcomment⟩ := before_comment_split true line
  cases hfound : release? line with
  | none =>
      have hblank := release_eq_none_iff.1 hfound
      rcases hcomment with hline | ⟨-, comment, hline⟩
      · rw [hline]
        exact .blank _ hblank
      · rw [hline]
        exact .comment _ comment hblank
  | some release =>
      obtain ⟨hne, htrim⟩ := release_eq_some_iff.1 hfound
      obtain ⟨htrimmed, before, after, hbefore, hafter, hsplit⟩ := trim_eq_iff.1 htrim
      rw [hsplit] at hfree hcomment
      have hrelease : IsRelease release := by
        obtain ⟨hhead, hblank⟩ :=
          free_of_iff.1 ((comment_free_in_blanks hbefore hafter).1 hfree)
        exact ⟨hne, htrimmed, hhead, hblank⟩
      rcases hcomment with hline | ⟨hbegin, comment, hline⟩
      · rw [hline]
        exact .release before release after hbefore hrelease hafter
      · rw [hline]
        exact .releaseAndComment before release after comment hbefore hrelease hafter
          ((may_begin_behind_release hne htrimmed hafter).1 hbegin)

/-- What a line lists is what is found in it. -/
theorem lists_iff {line : Text} {found : Option Text} :
    Lists line found ↔ release? line = found :=
  ⟨Lists.release_eq, fun h => h ▸ lists_release line⟩

theorem Lists.is_release {line release : Text} (h : Lists line (some release)) :
    IsRelease release := by
  cases h <;> assumption

/-! ## Lists of lines -/

theorem is_release_of_mem {lines : List Text} {release : Text} (h : release ∈ ofLines lines) :
    IsRelease release := by
  obtain ⟨line, -, hline⟩ := List.mem_filterMap.1 h
  exact (lists_iff.2 hline).is_release

/-- A list of releases is read as it is. -/
theorem of_lines_of_releases {releases : List Text} (h : ∀ release ∈ releases, IsRelease release) :
    ofLines releases = releases := by
  refine (List.filterMap_congr ?_).trans List.filterMap_some
  intro release hrelease
  have hlists := Lists.release [] release [] nofun (h release hrelease) nofun
  simpa using hlists.release_eq

/-- Whatever the lines, only releases are read from them: from each line in turn the one that it
lists, if any. Reading these again gives the same releases. A line alone gives what it lists. -/
theorem of_lines_lists (lines : List Text) :
    (∀ release ∈ ofLines lines, IsRelease release) ∧
    (∃ found : List (Option Text),
      List.Forall₂ Lists lines found ∧ ofLines lines = found.reduceOption) ∧
    ofLines (ofLines lines) = ofLines lines ∧
    ∀ line found, Lists line found ↔ ofLines [line] = found.toList := by
  refine ⟨fun release => is_release_of_mem, ⟨lines.map release?, ?_, ?_⟩,
    of_lines_of_releases fun release => is_release_of_mem, ?_⟩
  · rw [List.forall₂_map_right_iff, List.forall₂_same]
    exact fun line _ => lists_release line
  · rw [List.reduceOption, List.filterMap_map]
    rfl
  · intro line found
    rw [lists_iff]
    cases hrelease : release? line <;> cases found <;> simp [ofLines, hrelease]

/-- A comment begins after a blank or at the start of a line, and not within a release. -/
example : ofLines ["\t# spare".toList, " 1.8#b2 # main\n".toList, "#1.7".toList] =
    ["1.8#b2".toList] := by
  decide

end VersionMatch.ReleaseList
