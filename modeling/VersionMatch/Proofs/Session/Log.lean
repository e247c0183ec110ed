import VersionMatch.Proofs.Expression.Pointwise
import VersionMatch.Proofs.Requirement
import VersionMatch.Proofs.Session.Course
import VersionMatch.Proofs.Text.Quoted

/-!
# What a run logs about its releases

The search for the element that accepts a release stops at the first one that does, and within an
element at the first simple-element that turns the release down. Its notes show both stops: there is
one note for each element that the search passes over, about the leftmost simple-element at fault in
it. The line of such a note tells which release and which simple-element it is about.
`search_passes_over` says this of the search, and `search_and_run_logged` of the notes and of the
whole standard error of a verbose run.
-/

namespace VersionMatch

namespace Requirement

variable {release element simple : Text}

/-- `TurnsDown release element simple` says that `simple` is the leftmost piece between the
ampersands of the element that does not accept the release. -/
def TurnsDown (release element simple : Text) : Prop :=
  Text.FirstWithout (· == '&') (Accepts release) element simple

theorem rejecting_eq_some_iff :
    rejecting? release element = some simple ↔ TurnsDown release element simple := by
  have htest : ∀ simple, (!meets release simple) = true ↔ ¬ Accepts release simple := by
    intro simple
    rw [← meets_iff, Bool.not_eq_true', Bool.not_eq_true]
  exact Text.find_eq_some_iff htest

/-- An element with a piece that turns the release down does not accept it. -/
theorem TurnsDown.not_accepts_all (h : TurnsDown release element simple) :
    ¬ AcceptsAll release element := by
  rw [← meets_all_iff, meetsAll, rejecting_eq_some_iff.2 h]
  exact Bool.false_ne_true

/-- The search passes over elements with a piece that turns the release down, and it records this
piece of each of them. It ends behind the last element, or at one that accepts the release, of which
it records nothing. -/
theorem search_passes_over (release : Text) (elements : List Text) :
    ∃ passed rest, elements = passed ++ rest ∧
      List.Forall₂ (TurnsDown release) passed (search release elements).rejections ∧
      (rest = [] ∧ (search release elements).element = none ∨
        ∃ element later, rest = element :: later ∧ AcceptsAll release element ∧
          (search release elements).element = some element) := by
  induction elements with
  | nil => exact ⟨[], [], rfl, .nil, .inl ⟨rfl, rfl⟩⟩
  | cons element others ih =>
      rw [search]
      cases hrejecting : rejecting? release element with
      | none =>
          have haccepts : AcceptsAll release element := by
            rw [← meets_all_iff, meetsAll, hrejecting]
            rfl
          exact ⟨[], element :: others, rfl, .nil, .inr ⟨element, others, rfl, haccepts, rfl⟩⟩
      | some simple =>
          obtain ⟨passed, rest, hothers, hrejections, hrest⟩ := ih
          refine ⟨element :: passed, rest, ?_, ?_, hrest⟩
          · rw [hothers, List.cons_append]
          · exact .cons (rejecting_eq_some_iff.1 hrejecting) hrejections

end Requirement

namespace Session

open CommandLine (Settings)
open Log (Level Note)
open Requirement (AcceptsAll TurnsDown)

variable {world : World} {arguments : List Text} {settings : Settings} {releases : List Text}

/-- The line of a note has its level, its source and its wording, with colons between them. -/
theorem note_line_eq (note : Note) :
    note.line = note.level.name ++ ':' :: (note.source ++ ':' :: note.message) := by
  simp [Note.line, Text.join, List.intercalate_cons_cons]

/-- The lines of notes, each with its end. -/
def logLines (notes : List Note) : Text :=
  notes.flatMap fun note => note.line ++ ['\n']

theorem log_lines_append (before after : List Note) :
    logLines (before ++ after) = logLines before ++ logLines after :=
  List.flatMap_append

/-- From the lowest level on, every note is shown. -/
theorem on_standard_error_notes (notes : List Note) :
    (notes.map Event.note).flatMap (Event.onStandardError .debug) = logLines notes := by
  have hshown : ∀ note : Note, Event.onStandardError .debug (.note note) = note.line ++ ['\n'] := by
    intro note
    cases note <;> rfl
  rw [List.flatMap_map, logLines]
  exact congrArg (fun line => notes.flatMap line) (funext hshown)

/-- Gathering the releases shows nothing on the standard error. -/
theorem on_standard_error_gather (settings : Settings) (threshold : Level) :
    (gather settings).1.flatMap (Event.onStandardError threshold) = [] := by
  rw [List.flatMap_eq_nil_iff]
  intro event hevent
  obtain ⟨source, rfl⟩ := (gather_cases settings).1 event hevent
  rfl

/-- The end of a check shows nothing on the standard error, whether or not a report is written. -/
theorem on_standard_error_finish (world : World) (settings : Settings) (report : Report)
    (threshold : Level) :
    (finish world settings report).1.flatMap (Event.onStandardError threshold) = [] := by
  rw [List.flatMap_eq_nil_iff]
  intro event hevent
  cases event with
  | create | write => rfl
  | read | note | say => exact (not_writes_nothing_of_finish _ _ _ _ hevent trivial).elim

/-- A version-string that passes leaves one note, which is about no release. -/
theorem vetting_note {vetting : List Event}
    (h : vet world settings releases = (vetting, .ok ())) :
    ∃ note, vetting = [note].map Event.note ∧
      (note = .unchecked ∨ ∃ count, note = .parsed settings.operands.versionString count) := by
  rcases vet_eq_ok_iff.1 h with ⟨-, parsed, -, rfl⟩ | ⟨-, -, rfl⟩
  · exact ⟨_, rfl, .inr ⟨_, rfl⟩⟩
  · exact ⟨_, rfl, .inl rfl⟩

/-- The standard error of a run that shows all notes and comes to check its releases. -/
theorem standard_error_of_settings {level : Level} (hverbose : settings.choices.verbosity ≠ 0)
    (hgathered : (gather settings).2 = .ok releases)
    (hvetted : (vet world settings releases).2 = .ok ()) :
    ∃ note, (note = .unchecked ∨ ∃ count, note = .parsed settings.operands.versionString count) ∧
      (Run.ofSettings world level arguments settings).standardError =
        logLines [.understood (world.wording.describe arguments), note] ++
        logLines (notes settings.operands.versionString releases settings.choices.select) ++
        (closingLine (reportOn settings releases) ++ ['\n']) := by
  have hgather : gather settings = ((gather settings).1, .ok releases) := Prod.ext rfl hgathered
  have hvet : vet world settings releases = ((vet world settings releases).1, .ok ()) :=
    Prod.ext rfl hvetted
  obtain ⟨note, hvetting, hnote⟩ := vetting_note hvet
  refine ⟨note, hnote, ?_⟩
  have hthreshold : Run.thresholdFor settings.choices.verbosity level = .debug := if_neg hverbose
  have hsay : ∀ line, [Event.say line].flatMap (Event.onStandardError .debug) = line ++ ['\n'] :=
    fun line => List.flatMap_singleton _ _
  have hfirst : [understoodNote world arguments].flatMap (Event.onStandardError .debug) =
      logLines [.understood (world.wording.describe arguments)] := on_standard_error_notes [_]
  rw [of_settings_of_ok (prepare_eq_ok_iff.2 ⟨_, _, hgather, hvet, rfl⟩), hthreshold, hvetting,
    beforeEnd, ← List.singleton_append]
  simp only [Run.standardError, List.flatMap_append, on_standard_error_gather, hfirst,
    on_standard_error_notes, hsay, on_standard_error_finish, List.nil_append, List.append_nil]
  simp only [← List.append_assoc, ← log_lines_append]
  rfl

/-! ## What the line of a note tells -/

/-- The line of a note about a simple-element that turned a release down. -/
theorem rejected_line_eq (release simple : Text) :
    (Note.rejected release simple).line =
      "DEBUG:jsr56._release:".toList ++ Text.quoted release ++
        " rejected by simple-element ".toList ++ Text.quoted simple := by
  rw [note_line_eq]
  rfl

/-- The line of a note on the check of a release. -/
theorem checked_line_eq (release : Text) (element : Option Text) :
    (Note.checked release element).line =
      "DEBUG:jsr56._cli:Checked ".toList ++ release ++ ": matched element ".toList ++
        Text.quotedOption element := by
  rw [note_line_eq]
  rfl

/-- The line tells which simple-element turned which release down. -/
theorem rejected_line_inj {release simple other piece : Text}
    (h : (Note.rejected release simple).line = (Note.rejected other piece).line) :
    release = other ∧ simple = piece := by
  simp only [rejected_line_eq, List.append_assoc] at h
  obtain ⟨hrelease, hrest⟩ := Text.quoted_append_inj (List.append_cancel_left h)
  exact ⟨hrelease, Text.quoted_inj (List.append_cancel_left hrest)⟩

/-- The line on the check of a release tells which element accepted it, if one did. -/
theorem checked_line_inj {release : Text} {element other : Option Text}
    (h : (Note.checked release element).line = (Note.checked release other).line) :
    element = other := by
  rw [checked_line_eq, checked_line_eq] at h
  exact Text.quoted_option_inj (List.append_cancel_left h)

/-- The notes on the search for the element that accepts a release are one for each element in front
of the one that is found, or for each element if none is. Each names the leftmost piece of its
element that does not accept the release: its line shows the release and the piece between quotes,
as they are if they hold ordinary characters only, and no other note has the same line. A verbose
run that comes to check its releases shows, for each of them in order, these notes and then the note
on the check, which names the element that is found. Before that, there is one note on the arguments
and one on the version-string. Behind it, there are the notes on the selection, if there is one, and
the closing line. -/
theorem search_and_run_logged :
    (∀ (release : Text) (versionString : Option Text), ∃ passed rest,
      Text.Cut (· == ' ') (Text.orEmpty versionString) (passed ++ rest) ∧
      (∀ element ∈ passed, ¬ AcceptsAll release element) ∧
      (rest = [] ∧ Query.matchingElement (some release) versionString = none ∨
        ∃ element later, rest = element :: later ∧ AcceptsAll release element ∧
          Query.matchingElement (some release) versionString = some element) ∧
      List.Forall₂
        (fun element note => ∃ simple, TurnsDown release element simple ∧
          note = .rejected release simple)
        passed (rejectionNotes (Text.orEmpty versionString) release)) ∧
    (∀ release simple, (Note.rejected release simple).line =
      "DEBUG:jsr56._release:".toList ++ Text.quoted release ++
        " rejected by simple-element ".toList ++ Text.quoted simple) ∧
    (∀ release element, (Note.checked release element).line =
      "DEBUG:jsr56._cli:Checked ".toList ++ release ++ ": matched element ".toList ++
        Text.quotedOption element) ∧
    (∀ text, (∀ c ∈ text, Text.isPrintable c = true ∧ c ≠ '\'' ∧ c ≠ '\\') →
      Text.quoted text = '\'' :: (text ++ ['\''])) ∧
    (∀ release simple other piece,
      (Note.rejected release simple).line = (Note.rejected other piece).line →
        release = other ∧ simple = piece) ∧
    (∀ release element other,
      (Note.checked release element).line = (Note.checked release other).line →
        element = other) ∧
    ∀ (world : World) (arguments : List Text) (settings : Settings) (releases : List Text),
      Understood world arguments settings → settings.choices.verbosity ≠ 0 →
      (gather settings).2 = .ok releases → (vet world settings releases).2 = .ok () →
      ∃ note selection,
        (note = .unchecked ∨ ∃ count, note = .parsed settings.operands.versionString count) ∧
        selection = (if settings.choices.select
          then releases.flatMap (rejectionNotes settings.operands.versionString) ++
            [.selected (Selection.select? releases settings.operands.versionString)
              settings.operands.versionString]
          else []) ∧
        (Run.ofArguments world arguments).standardError =
          logLines [.understood (world.wording.describe arguments), note] ++
          releases.flatMap (fun release =>
            logLines (rejectionNotes settings.operands.versionString release ++
              [.checked release
                (Requirement.matchingElement release settings.operands.versionString)])) ++
          logLines selection ++ (closingLine (reportOn settings releases) ++ ['\n']) := by
  refine ⟨?_, rejected_line_eq, checked_line_eq, fun _ => Text.quoted_of_plain,
    fun _ _ _ _ => rejected_line_inj, fun _ _ _ => checked_line_inj, ?_⟩
  · intro release versionString
    obtain ⟨passed, rest, hpieces, hrejections, hrest⟩ :=
      Requirement.search_passes_over release (VersionString.pieces (Text.orEmpty versionString))
    refine ⟨passed, rest, Text.cut_iff.2 hpieces, ?_, hrest, ?_⟩
    · intro element helement
      obtain ⟨simple, -, hturns⟩ :=
        exists_mem_of_forall_two (List.Forall₂.flip hrejections) element helement
      exact Requirement.TurnsDown.not_accepts_all hturns
    · rw [rejectionNotes, List.forall₂_map_right_iff]
      exact hrejections.imp fun element simple hturns => ⟨simple, hturns, rfl⟩
  · intro world arguments settings releases hunderstood hverbose hgathered hvetted
    obtain ⟨level, hrun⟩ := hunderstood.run_eq
    obtain ⟨note, hnote, herror⟩ := standard_error_of_settings hverbose hgathered hvetted
    refine ⟨note, _, hnote, rfl, ?_⟩
    have hchecks : logLines (releases.flatMap (checkNotes settings.operands.versionString)) =
        releases.flatMap fun release =>
          logLines (checkNotes settings.operands.versionString release) := List.flatMap_assoc
    rw [hrun, herror, notes, log_lines_append, hchecks, ← List.append_assoc (logLines [_, note])]
    rfl

/-- A verbose run on the release `1.6`: the first element turns it down, the second one does so with
its second piece, and nothing is logged of the last one behind the element that accepts it. -/
theorem search_and_run_logged_pieces :
    ∃ before after,
      (Run.ofArguments (.ofDisk ⟨[], []⟩ .utf8 [] none)
        ["-v".toList, "1.8+ 1.6*&1.7&2 1.6 1.9".toList, "1.6".toList]).standardError =
      before ++ logLines [.rejected "1.6".toList "1.8+".toList, .rejected "1.6".toList "1.7".toList,
        .checked "1.6".toList (some "1.6".toList)] ++ after := by
  have hrun : Understood (.ofDisk ⟨[], []⟩ .utf8 [] none)
      ["-v".toList, "1.8+ 1.6*&1.7&2 1.6 1.9".toList, "1.6".toList]
      ⟨⟨"1.8+ 1.6*&1.7&2 1.6 1.9".toList, ["1.6".toList]⟩, .columns,
        { CommandLine.Choices.standard with verbosity := 1 }⟩ := ⟨⟨_, rfl⟩, by decide⟩
  obtain ⟨-, -, -, -, -, -, hlog⟩ := search_and_run_logged
  obtain ⟨note, selection, -, rfl, herror⟩ :=
    hlog _ _ _ ["1.6".toList] hrun (by decide) (by decide) (by decide)
  have hnotes : rejectionNotes "1.8+ 1.6*&1.7&2 1.6 1.9".toList "1.6".toList ++
        [.checked "1.6".toList
          (Requirement.matchingElement "1.6".toList "1.8+ 1.6*&1.7&2 1.6 1.9".toList)] =
      [.rejected "1.6".toList "1.8+".toList, .rejected "1.6".toList "1.7".toList,
        .checked "1.6".toList (some "1.6".toList)] := by decide
  rw [List.flatMap_singleton, hnotes, List.append_assoc _ (logLines _)] at herror
  exact ⟨_, _, herror⟩

end Session

end VersionMatch
