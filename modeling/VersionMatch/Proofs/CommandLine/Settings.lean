import Mathlib.Data.List.Forall2
import VersionMatch.CommandLine.Settings

/-!
# The release files of a command line

The options of a command line are carried out one after the other, and an option for a release file
opens it and adds it to the choices. `Opened` says what a list of actions adds in this way.
`opened_of_arguments` concludes that the sources of the settings are the release files that the
command line names, in the order of their options.
-/

namespace VersionMatch.CommandLine

variable {inputs : Inputs} {draft : Draft}

/-- `Opened inputs actions entries` says that a list of actions adds entries to the sources of a
run: an open source for each release file, and a missing one where an option names none. -/
inductive Opened (inputs : Inputs) : List Action → List (Option Source) → Prop where
  | nil : Opened inputs [] []
  | source (path source actions entries) :
      Source.ofPath inputs path = .ok source → Opened inputs actions entries →
      Opened inputs (.set .releaseFile (some path) :: actions) (some source :: entries)
  | unnamed (actions entries) :
      Opened inputs actions entries →
      Opened inputs (.set .releaseFile none :: actions) (none :: entries)
  | other (action actions entries) :
      (∀ value, action ≠ .set .releaseFile value) → Opened inputs actions entries →
      Opened inputs (action :: actions) entries

/-- An action for anything but a release file leaves the sources as they are. -/
theorem sources_of_apply_other {action : Action} {next : Draft}
    (hother : ∀ value, action ≠ .set .releaseFile value)
    (h : draft.apply inputs action = .ok next) :
    next.choices.sources = draft.choices.sources := by
  cases action with
  | raise flag =>
      cases flag with
      | help | version => cases h
      | select | noValidate | verbose =>
          cases h
          rfl
  | set parameter value =>
      cases parameter with
      | releaseFile => exact absurd rfl (hother value)
      | output =>
          cases value <;> cases h <;> rfl
      | format =>
          cases value with
          | none =>
              cases h
              rfl
          | some name =>
              simp only [Draft.apply, Draft.set] at h
              split at h
              · cases h
                rfl
              · cases h

/-- An action for a release file opens it and adds it at the end of the sources. -/
theorem sources_of_apply_release_file {path : Text} {next : Draft}
    (h : draft.apply inputs (.set .releaseFile (some path)) = .ok next) :
    ∃ source, Source.ofPath inputs path = .ok source ∧
      next.choices.sources = draft.choices.sources ++ [some source] := by
  simp only [Draft.apply, Draft.set] at h
  cases hopen : Source.ofPath inputs path with
  | error refusal =>
      rw [hopen] at h
      cases h
  | ok source =>
      rw [hopen] at h
      cases h
      exact ⟨source, rfl, rfl⟩

/-- Carrying out actions adds what they open to the sources, in the order of the actions. -/
theorem opened_of_fold {actions : List Action} {final : Draft}
    (h : actions.foldlM (Draft.apply inputs) draft = .ok final) :
    ∃ entries, Opened inputs actions entries ∧
      final.choices.sources = draft.choices.sources ++ entries := by
  -- Each action goes on from the draft that the one before it leaves.
  induction actions generalizing draft with
  | nil =>
      cases h
      exact ⟨[], .nil, by simp⟩
  | cons action actions ih =>
      rw [List.foldlM_cons] at h
      cases hnext : draft.apply inputs action with
      | error refusal =>
          rw [hnext] at h
          cases h
      | ok next =>
          rw [hnext] at h
          obtain ⟨entries, hentries, hsources⟩ := ih h
          by_cases hfile : ∃ value, action = .set .releaseFile value
          · obtain ⟨value, rfl⟩ := hfile
            cases value with
            | none =>
                cases hnext
                exact ⟨none :: entries, .unnamed _ _ hentries, by
                  simp [hsources, Draft.leaveUnnamed, Choices.addSource]⟩
            | some path =>
                obtain ⟨source, hopen, hadded⟩ := sources_of_apply_release_file hnext
                exact ⟨some source :: entries, .source _ _ _ _ hopen hentries, by
                  simp [hsources, hadded]⟩
          · have hother : ∀ value, action ≠ .set .releaseFile value :=
              fun value heq => hfile ⟨value, heq⟩
            exact ⟨entries, .other _ _ _ hother hentries, by
              rw [hsources, sources_of_apply_other hother hnext]⟩

/-! ## The release files that are named -/

/-- The release file that an action names. -/
def Action.releaseFile? : Action → Option Text
  | .set .releaseFile path => path
  | .set .format _ | .set .output _ | .raise _ => none

theorem Plan.release_files_eq (plan : Plan) :
    plan.releaseFiles = plan.actions.filterMap Action.releaseFile? := by
  refine List.filterMap_congr ?_
  intro action _
  cases action with
  | raise flag => rfl
  | set parameter value => cases parameter <;> rfl

/-- If no source is missing, the sources are the named release files, opened. -/
theorem Opened.forall_two {actions : List Action} {sources : List Source}
    (h : Opened inputs actions (sources.map some)) :
    List.Forall₂ (fun path source => Source.ofPath inputs path = .ok source)
      (actions.filterMap Action.releaseFile?) sources := by
  generalize hentries : sources.map some = entries at h
  induction h generalizing sources with
  | nil =>
      rw [List.map_eq_nil_iff.1 hentries]
      exact .nil
  | source path source actions entries hopen _ ih =>
      obtain ⟨first, rest, rfl, hfirst, hrest⟩ := List.map_eq_cons_iff.1 hentries
      cases hfirst
      exact .cons hopen (ih hrest)
  | unnamed actions entries _ ih =>
      obtain ⟨first, rest, rfl, hfirst, hrest⟩ := List.map_eq_cons_iff.1 hentries
      cases hfirst
  | other action actions entries hother _ ih =>
      have hnone : Action.releaseFile? action = none := by
        cases action with
        | raise flag => rfl
        | set parameter value =>
            cases parameter with
            | format | output => rfl
            | releaseFile => exact absurd rfl (hother value)
      rw [List.filterMap_cons_none hnone]
      exact ih hentries

/-- A plan that leads to settings has their operands, and carrying out its actions leads to their
format and choices. -/
theorem Settings.of_plan_eq_ok {plan : Plan} {settings : Settings}
    (h : Settings.ofPlan inputs plan = .ok settings) :
    plan.operands = some settings.operands ∧
      plan.actions.foldlM (Draft.apply inputs) Draft.standard =
        .ok ⟨some settings.format, settings.choices⟩ := by
  obtain ⟨actions, operands, leftover, error⟩ := plan
  unfold Settings.ofPlan at h
  cases hfold : actions.foldlM (Draft.apply inputs) Draft.standard with
  | error refusal => simp [hfold] at h
  | ok draft =>
      obtain ⟨format, choices⟩ := draft
      cases error with
      | some error => simp [hfold] at h
      | none =>
          cases operands with
          | none => simp [hfold] at h
          | some operands =>
              cases leftover with
              | cons first others => simp [hfold] at h
              | nil =>
                  cases format with
                  | none => simp [hfold] at h
                  | some format =>
                      simp only [hfold, List.isEmpty_nil, Bool.not_true, Bool.false_eq_true,
                        if_false, Except.ok.injEq] at h
                      subst h
                      exact ⟨rfl, rfl⟩

/-- If no source is missing, the sources of the settings are the release files that the command line
names, opened in the order of their options. -/
theorem Settings.opened_of_arguments {arguments : List Text} {settings : Settings}
    {sources : List Source} (h : Settings.ofArguments inputs arguments = .ok settings)
    (hsources : settings.choices.sources = sources.map some) :
    List.Forall₂ (fun path source => Source.ofPath inputs path = .ok source)
      (Plan.ofArguments arguments).releaseFiles sources := by
  obtain ⟨-, hfold⟩ := Settings.of_plan_eq_ok h
  obtain ⟨entries, hentries, hadded⟩ := opened_of_fold hfold
  have hsame : entries = sources.map some := by
    rw [← hsources]
    exact hadded.symm
  rw [Plan.release_files_eq]
  exact (hsame ▸ hentries).forall_two

end VersionMatch.CommandLine
