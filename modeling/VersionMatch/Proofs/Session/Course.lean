import VersionMatch.Proofs.Session.Check
import VersionMatch.Session.Run

/-!
# The course of a run

A check first prepares its report: it reads the sources, vets the version-string and looks at each
release. Then it says one line, and in the end it may write the report. `check_eq` takes a check
apart in this way. `prepare_eq_ok_iff` and `prepare_eq_error_iff` say when the preparation succeeds
and how it fails, and `finished` lists the ways in which a check can come to its end.

A run whose arguments are understood takes a note of them and then checks, `Understood.run_eq`.
`course` lists the courses that a run can take.
-/

namespace VersionMatch.Session

open CommandLine (Destination Refusal Settings Source)
open Log (Level)

variable {world : World} {settings : Settings} {releases : List Text} {events : List Event}
variable {ending : Ending}

/-! ## Reading and vetting that fail -/

/-- A fault that does not come from writing. -/
def Fault.BeforeWriting (fault : Fault) : Prop :=
  ∀ destination error, fault ≠ .unwritten destination error

theorem before_writing_of_available {inputOpen : Bool} {entry : Option Source} {fault : Fault}
    (h : available inputOpen entry = .error fault) : fault.BeforeWriting := by
  cases entry with
  | none =>
      cases h
      exact fun _ _ h => by cases h
  | some source =>
      simp only [available] at h
      split at h
      · cases h
        exact fun _ _ h => by cases h
      · cases h

/-- Reading sources only reads, and if it fails it does so with a fault. -/
theorem read_sources_cases (inputOpen : Bool) (entries : List (Option Source)) :
    (∀ event ∈ (readSources inputOpen entries).1, ∃ source, event = .read source) ∧
      ∀ ending, (readSources inputOpen entries).2 = .error ending →
        ∃ fault, ending = .fault fault ∧ fault.BeforeWriting := by
  induction entries generalizing inputOpen with
  | nil => exact ⟨by simp [readSources], by simp [readSources]⟩
  | cons entry entries ih =>
      rw [readSources]
      cases havailable : available inputOpen entry with
      | error fault =>
          refine ⟨by simp, ?_⟩
          intro ending h
          cases h
          exact ⟨fault, rfl, before_writing_of_available havailable⟩
      | ok source =>
          dsimp only
          cases source.releases with
          | error complaint =>
              refine ⟨by simp, ?_⟩
              intro ending h
              cases h
              exact ⟨.undecodable complaint, rfl, fun _ _ h => by cases h⟩
          | ok list =>
              obtain ⟨hevents, hending⟩ := ih (inputOpen && !source.isStandardInput)
              refine ⟨List.forall_mem_cons.2 ⟨⟨source, rfl⟩, hevents⟩, ?_⟩
              intro ending h
              cases hread : (readSources (inputOpen && !source.isStandardInput) entries).2 with
              | error other =>
                  simp only [hread, Except.map, Except.error.injEq] at h
                  exact hending ending (by rw [hread, h])
              | ok others => simp [hread, Except.map] at h

/-- Gathering the releases only reads, and if it fails it does so with a fault. -/
theorem gather_cases (settings : Settings) :
    (∀ event ∈ (gather settings).1, ∃ source, event = .read source) ∧
      ∀ ending, (gather settings).2 = .error ending →
        ∃ fault, ending = .fault fault ∧ fault.BeforeWriting := by
  obtain ⟨hevents, hending⟩ := read_sources_cases true settings.choices.sources
  refine ⟨hevents, ?_⟩
  intro ending h
  cases hread : (readSources true settings.choices.sources).2 with
  | error other =>
      simp only [gather, hread, Except.map, Except.error.injEq] at h
      exact hending ending (by rw [hread, h])
  | ok others => simp [gather, hread, Except.map] at h

/-- A version-string does not pass if it is checked and cannot be parsed, or if it is not checked
and there is no release. -/
theorem vet_eq_error_iff :
    vet world settings releases = (events, .error ending) ↔
      (settings.choices.validate = true ∧
        ∃ error, VersionString.parse (some settings.operands.versionString) = .error error ∧
          events = [.note (.invalid error)] ∧ ending = .exit 1) ∨
      settings.choices.validate = false ∧ releases = [] ∧
        (events, ending) = usageError world .nothingToCheck := by
  rw [vet]
  cases settings.choices.validate with
  | true =>
      cases VersionString.parse (some settings.operands.versionString) with
      | error error => simp [eq_comm]
      | ok parsed => simp
  | false =>
      cases releases with
      | nil => simp [usageError, eq_comm]
      | cons release releases => simp

/-! ## The preparation -/

/-- What a check does before it says its line, and the releases that it has looked at. -/
def prepare (world : World) (settings : Settings) : Stage (List Text) :=
  match gather settings with
  | (reading, .error ending) => (reading, .error ending)
  | (reading, .ok releases) =>
    match vet world settings releases with
    | (vetting, .error ending) => (reading ++ vetting, .error ending)
    | (vetting, .ok ()) =>
      (reading ++ vetting ++
        (notes settings.operands.versionString releases settings.choices.select).map .note,
        .ok releases)

/-- The preparation succeeds if both stages do. It has their events and then the notes on the
releases. -/
theorem prepare_eq_ok_iff :
    prepare world settings = (events, .ok releases) ↔
      ∃ reading vetting, gather settings = (reading, .ok releases) ∧
        vet world settings releases = (vetting, .ok ()) ∧
        events = reading ++ vetting ++
          (notes settings.operands.versionString releases settings.choices.select).map .note := by
  rw [prepare]
  cases gather settings with
  | mk reading gathered =>
      cases gathered with
      | error ending => simp
      | ok found =>
          dsimp only
          cases hvet : vet world settings found with
          | mk vetting vetted =>
              cases vetted with
              | error ending =>
                  simp only [Prod.mk.injEq, reduceCtorEq, and_false, false_iff]
                  rintro ⟨_, _, ⟨rfl, ⟨rfl⟩⟩, hother, -⟩
                  rw [hvet] at hother
                  cases hother
              | ok done =>
                  constructor
                  · intro h
                    cases h
                    exact ⟨reading, vetting, rfl, hvet, rfl⟩
                  · rintro ⟨_, _, ⟨rfl, ⟨rfl⟩⟩, hother, rfl⟩
                    rw [hvet] at hother
                    cases hother
                    rfl

/-- The preparation fails where the first of the two stages fails. -/
theorem prepare_eq_error_iff :
    prepare world settings = (events, .error ending) ↔
      gather settings = (events, .error ending) ∨
      ∃ reading vetting releases, gather settings = (reading, .ok releases) ∧
        vet world settings releases = (vetting, .error ending) ∧ events = reading ++ vetting := by
  rw [prepare]
  cases gather settings with
  | mk reading gathered =>
      cases gathered with
      | error other => simp
      | ok found =>
          dsimp only
          cases hvet : vet world settings found with
          | mk vetting vetted =>
              cases vetted with
              | error other =>
                  constructor
                  · intro h
                    cases h
                    exact .inr ⟨reading, vetting, found, rfl, hvet, rfl⟩
                  · rintro (h | ⟨_, _, _, ⟨rfl, ⟨rfl⟩⟩, hother, rfl⟩)
                    · cases h
                    · rw [hvet] at hother
                      cases hother
                      rfl
              | ok done =>
                  simp only [Prod.mk.injEq, reduceCtorEq, and_false, false_or, false_iff]
                  rintro ⟨_, _, _, ⟨rfl, ⟨rfl⟩⟩, hother, -⟩
                  rw [hvet] at hother
                  cases hother

/-- The preparation does not write, and so does not fail in writing either. -/
theorem before_writing_of_prepare {fault : Fault}
    (h : (prepare world settings).2 = .error (.fault fault)) : fault.BeforeWriting := by
  have hprepare : prepare world settings = ((prepare world settings).1, .error (.fault fault)) :=
    Prod.ext rfl h
  rcases prepare_eq_error_iff.1 hprepare with
    hgather | ⟨reading, vetting, releases, -, hvet, -⟩
  · obtain ⟨named, heq, hbefore⟩ := (gather_cases settings).2 (.fault fault) (by rw [hgather])
    cases heq
    exact hbefore
  · rcases vet_eq_error_iff.1 hvet with ⟨-, error, -, -, hending⟩ | ⟨-, -, husage⟩
    · cases hending
    · cases husage

/-! ## The end -/

/-- The report on the releases of a check. -/
def reportOn (settings : Settings) (releases : List Text) : Report :=
  Report.ofReleases settings.operands.versionString releases settings.choices.select

/-- The line that a check says before its end. -/
def closingLine (report : Report) : Text :=
  if report.outcomes.isEmpty then "Valid version string: ".toList ++ report.versionString
  else report.summary

/-- The status of a check that does not fail. -/
def closingStatus (report : Report) : Nat :=
  if !report.outcomes.isEmpty && report.acceptableCount = 0 then 1 else 0

/-- Whether a report is written at all. -/
def isWritten (format : Report.Format) (report : Report) : Bool :=
  format.isManifest || !report.outcomes.isEmpty

/-- The text that is written for a report. -/
def reportText (format : Report.Format) (report : Report) : Text :=
  Report.render format report ++ ['\n']

/-- What a check does after its line: it writes the report unless there is nothing to report. -/
def finish (world : World) (settings : Settings) (report : Report) : List Event × Ending :=
  if isWritten settings.format report then
    deliver world settings.choices.destination (Report.render settings.format report)
      (closingStatus report)
  else ([], .exit (closingStatus report))

theorem conclude_eq (world : World) (settings : Settings) (report : Report) :
    conclude world settings report =
      (.say (closingLine report) :: (finish world settings report).1,
        (finish world settings report).2) := by
  unfold conclude finish isWritten closingLine closingStatus
  cases report.outcomes.isEmpty with
  | true => cases settings.format.isManifest <;> rfl
  | false => simp

/-- A check ends where its preparation fails. Else it says its line and comes to its end. -/
theorem check_eq (world : World) (settings : Settings) :
    check world settings =
      match prepare world settings with
      | (events, .error ending) => (events, ending)
      | (events, .ok releases) =>
        (events ++ .say (closingLine (reportOn settings releases)) ::
            (finish world settings (reportOn settings releases)).1,
          (finish world settings (reportOn settings releases)).2) := by
  rw [check, prepare]
  cases gather settings with
  | mk reading gathered =>
      cases gathered with
      | error ending => rfl
      | ok releases =>
          dsimp only
          cases vet world settings releases with
          | mk vetting vetted =>
              cases vetted with
              | error ending => rfl
              | ok done =>
                  dsimp only
                  rw [← reportOn, conclude_eq]

/-- `Finished world settings report result` says that the events and the ending are those of one of
the ways to come to the end: nothing is to be written, the destination of the report is missing or
cannot be opened, the report arrives as a whole, or it does not. -/
inductive Finished (world : World) (settings : Settings) (report : Report) :
    List Event × Ending → Prop where
  | nothing : isWritten settings.format report = false →
      Finished world settings report ([], .exit (closingStatus report))
  | unnamed : isWritten settings.format report = true → settings.choices.destination = none →
      Finished world settings report ([], .fault (.missingValue .output))
  | unopened (path error) : isWritten settings.format report = true →
      settings.choices.destination = some (.file path) → world.create path = .error error →
      Finished world settings report ([], .fault (.unwritable path error))
  | whole (destination) : isWritten settings.format report = true →
      settings.choices.destination = some destination → CanOpen world destination →
      world.put destination (reportText settings.format report) = .whole →
      Finished world settings report
        (writing destination (reportText settings.format report), .exit (closingStatus report))
  | broken (destination arrived error) : isWritten settings.format report = true →
      settings.choices.destination = some destination → CanOpen world destination →
      world.put destination (reportText settings.format report) = .broken arrived error →
      Finished world settings report
        (writing destination arrived, .fault (.unwritten destination error))

/-- A report for a destination that can be opened is written to it, as far as this goes. -/
theorem finish_of_can_open {report : Report} {destination : Destination}
    (hwritten : isWritten settings.format report = true)
    (hdestination : settings.choices.destination = some destination)
    (hopen : CanOpen world destination) :
    finish world settings report =
      (opening destination ++ (writeText world destination (reportText settings.format report)
          (closingStatus report)).1,
        (writeText world destination (reportText settings.format report)
          (closingStatus report)).2) := by
  rw [finish, if_pos hwritten, hdestination, deliver_of_can_open hopen]
  rfl

/-- A report that its destination takes is written as a whole. -/
theorem finish_of_whole {report : Report} {destination : Destination}
    (hwritten : isWritten settings.format report = true)
    (hdestination : settings.choices.destination = some destination)
    (hopen : CanOpen world destination)
    (hput : world.put destination (reportText settings.format report) = .whole) :
    finish world settings report =
      (writing destination (reportText settings.format report), .exit (closingStatus report)) := by
  rw [finish_of_can_open hwritten hdestination hopen, writeText, hput]
  rfl

/-- Of a report that its destination does not take, only a part is written. -/
theorem finish_of_broken {report : Report} {destination : Destination} {arrived : Text}
    {error : WriteError} (hwritten : isWritten settings.format report = true)
    (hdestination : settings.choices.destination = some destination)
    (hopen : CanOpen world destination)
    (hput : world.put destination (reportText settings.format report) = .broken arrived error) :
    finish world settings report =
      (writing destination arrived, .fault (.unwritten destination error)) := by
  rw [finish_of_can_open hwritten hdestination hopen, writeText, hput]
  rfl

/-- A report is not written if its destination cannot be opened. -/
theorem finish_of_unopened {report : Report} {path : Text} {error : FileError}
    (hwritten : isWritten settings.format report = true)
    (hdestination : settings.choices.destination = some (.file path))
    (hcreate : world.create path = .error error) :
    finish world settings report = ([], .fault (.unwritable path error)) := by
  rw [finish, if_pos hwritten, hdestination, deliver, openDestination, hcreate]

/-- Nor is it written if its destination is missing. -/
theorem finish_of_unnamed {report : Report} (hwritten : isWritten settings.format report = true)
    (hdestination : settings.choices.destination = none) :
    finish world settings report = ([], .fault (.missingValue .output)) := by
  rw [finish, if_pos hwritten, hdestination, deliver, openDestination]

theorem finished_of_can_open {report : Report} {destination : Destination}
    (hwritten : isWritten settings.format report = true)
    (hdestination : settings.choices.destination = some destination)
    (hopen : CanOpen world destination) :
    Finished world settings report (finish world settings report) := by
  cases hput : world.put destination (reportText settings.format report) with
  | whole =>
      rw [finish_of_whole hwritten hdestination hopen hput]
      exact .whole destination hwritten hdestination hopen hput
  | broken arrived error =>
      rw [finish_of_broken hwritten hdestination hopen hput]
      exact .broken destination arrived error hwritten hdestination hopen hput

/-- Every check comes to its end in one of the ways. -/
theorem finished (world : World) (settings : Settings) (report : Report) :
    Finished world settings report (finish world settings report) := by
  cases hwritten : isWritten settings.format report with
  | false =>
      rw [finish, hwritten]
      exact .nothing hwritten
  | true =>
      cases hdestination : settings.choices.destination with
      | none =>
          rw [finish_of_unnamed hwritten hdestination]
          exact .unnamed hwritten hdestination
      | some destination =>
          cases destination with
          | standardOutput => exact finished_of_can_open hwritten hdestination .standardOutput
          | file path =>
              cases hcreate : world.create path with
              | ok done => exact finished_of_can_open hwritten hdestination (.file path hcreate)
              | error error =>
                  rw [finish_of_unopened hwritten hdestination hcreate]
                  exact .unopened path error hwritten hdestination hcreate

/-- At its end, a check does nothing but write. -/
theorem not_writes_nothing_of_finish (world : World) (settings : Settings) (report : Report) :
    ∀ event ∈ (finish world settings report).1, ¬ event.WritesNothing := by
  have hfinished := finished world settings report
  generalize finish world settings report = result at hfinished ⊢
  cases hfinished with
  | nothing | unnamed | unopened => exact List.forall_mem_nil _
  | whole | broken => exact not_writes_nothing_of_writing _ _

/-! ## Runs of settings -/

variable {arguments : List Text} {level : Level}

/-- The note on the arguments, with which a run of settings begins. -/
def understoodNote (world : World) (arguments : List Text) : Event :=
  .note (.understood (world.wording.describe arguments))

/-- What a run of settings does before its end, given the events of its preparation. -/
def beforeEnd (world : World) (arguments : List Text) (events : List Event) (report : Report) :
    List Event :=
  understoodNote world arguments :: events ++ [.say (closingLine report)]

/-- A run whose preparation fails ends there. -/
theorem of_settings_of_error (h : prepare world settings = (events, .error ending)) :
    Run.ofSettings world level arguments settings =
      ⟨Run.thresholdFor settings.choices.verbosity level, understoodNote world arguments :: events,
        ending⟩ := by
  rw [Run.ofSettings, check_eq, h]
  rfl

/-- A run whose preparation succeeds says its line and comes to its end. -/
theorem of_settings_of_ok (h : prepare world settings = (events, .ok releases)) :
    Run.ofSettings world level arguments settings =
      ⟨Run.thresholdFor settings.choices.verbosity level,
        beforeEnd world arguments events (reportOn settings releases) ++
          (finish world settings (reportOn settings releases)).1,
        (finish world settings (reportOn settings releases)).2⟩ := by
  rw [Run.ofSettings, check_eq, h, beforeEnd, List.append_assoc]
  rfl

/-- `Understood world arguments settings` says that the log level is a level and that a command line
leads to settings, so that the run goes on to check them. -/
structure Understood (world : World) (arguments : List Text) (settings : Settings) : Prop where
  level : ∃ level, Level.ofSetting world.logLevel = .ok level
  understood : Settings.ofArguments world.inputs arguments = .ok settings

/-- The run of a command line that is understood is the run of its settings. -/
theorem Understood.run_eq (h : Understood world arguments settings) :
    ∃ level, Run.ofArguments world arguments =
      Run.ofSettings world level arguments settings := by
  obtain ⟨⟨level, hlevel⟩, hsettings⟩ := h
  refine ⟨level, ?_⟩
  rw [Run.ofArguments, hlevel, hsettings]

/-- A preparation that succeeds shows nothing outside of the log. -/
theorem silent_of_prepare (h : prepare world settings = (events, .ok releases)) :
    ∀ event ∈ events, event.Silent := by
  obtain ⟨reading, vetting, hgather, hvet, rfl⟩ := prepare_eq_ok_iff.1 h
  have hreading : ∀ event ∈ reading, event.Silent := by
    intro event hevent
    obtain ⟨source, rfl⟩ := (gather_cases settings).1 event (by rwa [hgather])
    trivial
  have hvetting : ∀ event ∈ vetting, event.Silent := by
    rcases vet_eq_ok_iff.1 hvet with ⟨-, parsed, -, rfl⟩ | ⟨-, -, rfl⟩
    · exact List.forall_mem_singleton.2 trivial
    · exact List.forall_mem_singleton.2 trivial
  simp only [List.forall_mem_append, List.forall_mem_map]
  exact ⟨⟨hreading, hvetting⟩, fun note _ => trivial⟩

/-- Nothing is written while a report is prepared. -/
theorem writes_nothing_of_prepare (world : World) (settings : Settings) :
    ∀ event ∈ (prepare world settings).1, event.WritesNothing := by
  cases hprepare : prepare world settings with
  | mk events prepared =>
      cases prepared with
      | ok releases =>
          intro event hevent
          exact (silent_of_prepare hprepare event hevent).writes_nothing
      | error ending =>
          have hreading : ∀ event ∈ (gather settings).1, event.WritesNothing := by
            intro event hevent
            obtain ⟨source, rfl⟩ := (gather_cases settings).1 event hevent
            trivial
          rcases prepare_eq_error_iff.1 hprepare with
            hgather | ⟨reading, vetting, releases, hgather, hvet, rfl⟩
          · rw [hgather] at hreading
            exact hreading
          · rw [hgather] at hreading
            refine List.forall_mem_append.2 ⟨hreading, ?_⟩
            rcases vet_eq_error_iff.1 hvet with ⟨-, error, -, rfl, -⟩ | ⟨-, -, husage⟩
            · exact List.forall_mem_singleton.2 trivial
            · cases husage
              exact List.forall_mem_cons.2 ⟨trivial, List.forall_mem_singleton.2 trivial⟩

/-- Nothing is written before the end of a run. -/
theorem writes_nothing_before_end (arguments : List Text)
    (hprepare : prepare world settings = (events, .ok releases)) (report : Report) :
    ∀ event ∈ beforeEnd world arguments events report, event.WritesNothing := by
  have hevents := writes_nothing_of_prepare world settings
  rw [hprepare] at hevents
  refine List.forall_mem_append.2 ⟨List.forall_mem_cons.2 ⟨trivial, hevents⟩, ?_⟩
  exact List.forall_mem_singleton.2 trivial

/-! ## All runs -/

/-- `Course world arguments run` says that a run takes one of the courses that there are: the log
level is unknown, the command line does not lead to a check, the check fails in its preparation, or
it comes to its end. -/
inductive Course (world : World) (arguments : List Text) : Run → Prop where
  | unset (name : Text) : Level.ofSetting world.logLevel = .error name →
      Course world arguments ⟨.warning, [], .fault (.unknownLevel name)⟩
  | refused (level : Level) (refusal : Refusal) :
      Settings.ofArguments world.inputs arguments = .error refusal →
      Course world arguments (Run.ofRefusal world level arguments refusal)
  | unprepared (level : Level) (settings : Settings) (events : List Event) (ending : Ending) :
      Settings.ofArguments world.inputs arguments = .ok settings →
      prepare world settings = (events, .error ending) →
      Course world arguments (Run.ofSettings world level arguments settings)
  | prepared (level : Level) (settings : Settings) (events : List Event) (releases : List Text) :
      Settings.ofArguments world.inputs arguments = .ok settings →
      prepare world settings = (events, .ok releases) →
      Course world arguments (Run.ofSettings world level arguments settings)

/-- Every run takes one of the courses. -/
theorem course (world : World) (arguments : List Text) :
    Course world arguments (Run.ofArguments world arguments) := by
  unfold Run.ofArguments
  cases hlevel : Level.ofSetting world.logLevel with
  | error name => exact .unset name hlevel
  | ok level =>
      dsimp only
      cases hsettings : Settings.ofArguments world.inputs arguments with
      | error refusal => exact .refused level refusal hsettings
      | ok settings =>
          cases hprepare : prepare world settings with
          | mk events prepared =>
              cases prepared with
              | error ending => exact .unprepared level settings events ending hsettings hprepare
              | ok releases => exact .prepared level settings events releases hsettings hprepare

end VersionMatch.Session
