import VersionMatch.Proofs.Expression.Parse
import VersionMatch.Proofs.Session.Trace

/-!
# The presentation of a run

Some options of a command line only choose how a run presents its result: how much it logs, the
format and the destination of the report, and whether the version-string is checked at first. Two
runs that differ in one of them come to the same result, as far as their reports arrive.
`same_result_of_prepare` compares two runs stage by stage, and `presentation_of_runs` draws the
conclusion for each of the options.
-/

namespace VersionMatch.Session

open CommandLine (Destination Settings)
open Grammar (IsVersionString)
open Log (Level)

/-! ## What two runs have in common -/

/-- Two runs have the same result if they end alike, show the same on the standard output and leave
the same files, so that they make the same changes to every disk. -/
structure Run.SameResult (run other : Run) : Prop where
  ending : run.ending = other.ending
  standard_output : run.standardOutput = other.standardOutput
  files : run.files = other.files
  changes : ∀ disk, run.changes disk = other.changes disk

theorem Run.same_result {run other : Run} (hending : run.ending = other.ending)
    (houtput : run.standardOutput = other.standardOutput) (hfiles : run.files = other.files) :
    run.SameResult other := by
  refine ⟨hending, houtput, hfiles, ?_⟩
  intro disk
  rw [Run.changes, Run.changes, Run.diskAfter, Run.diskAfter, hfiles]

/-- The line that an event says, if it does. -/
def Event.said? : Event → Option Text
  | .say line => some line
  | .read _ | .note _ | .create _ | .write .. => none

/-- The lines that a run says on the standard error, apart from its notes. -/
def Run.said (run : Run) : List Text :=
  run.events.filterMap Event.said?

variable {world : World} {level otherLevel : Level} {settings other : Settings}
variable {arguments otherArguments : List Text}

/-- The level at which the log is set from outside counts only until it is read. -/
theorem of_settings_of_log_level (logLevel : Option Text) :
    Run.ofSettings { world with logLevel := logLevel } level arguments settings =
      Run.ofSettings world level arguments settings :=
  rfl

/-- Two runs have the same result if their preparations have the same outcome, whatever events lead
to it, and if they come to their ends alike. -/
theorem same_result_of_prepare
    (hprepare : (prepare world settings).2 = (prepare world other).2)
    (hfinish : ∀ releases, finish world settings (reportOn settings releases) =
      finish world other (reportOn other releases)) :
    (Run.ofSettings world level arguments settings).SameResult
      (Run.ofSettings world otherLevel otherArguments other) := by
  cases hleft : prepare world settings with
  | mk events prepared =>
      cases hright : prepare world other with
      | mk otherEvents otherPrepared =>
          rw [hleft, hright] at hprepare
          obtain rfl : prepared = otherPrepared := hprepare
          cases prepared with
          | error ending =>
              have hnothing : (Run.ofSettings world level arguments settings).LeavesNoTrace :=
                leaves_no_trace_of_prepare hleft
              have hothers : (Run.ofSettings world otherLevel otherArguments other).LeavesNoTrace :=
                leaves_no_trace_of_prepare hright
              apply Run.same_result
              · rw [of_settings_of_error hleft, of_settings_of_error hright]
              · exact hnothing.standard_output.trans hothers.standard_output.symm
              · exact hnothing.files.trans hothers.files.symm
          | ok releases =>
              have hnothing := writes_nothing_before_end arguments hleft
                (reportOn settings releases)
              have hothers := writes_nothing_before_end otherArguments hright
                (reportOn other releases)
              rw [of_settings_of_ok hleft, of_settings_of_ok hright, hfinish]
              apply Run.same_result
              · rfl
              · rw [Run.standard_output_of_append hnothing, Run.standard_output_of_append hothers]
                rfl
              · rw [Run.files_of_append hnothing, Run.files_of_append hothers]
                rfl

/-! ## The level of the log -/

/-- Neither the level of the log nor the number of requests for more of it changes the result. -/
theorem same_result_of_verbosity (verbosity : Nat) :
    (Run.ofSettings world level arguments settings).SameResult
      (Run.ofSettings world otherLevel otherArguments
        { settings with choices.verbosity := verbosity }) := by
  apply same_result_of_prepare
  · rfl
  · exact fun _ => rfl

/-! ## The check of the version-string -/

/-- Where the version-string is valid and there is a release, the preparation comes down to
gathering the releases, whether or not the version-string is checked. -/
theorem prepare_of_valid (hvalid : IsVersionString settings.operands.versionString)
    (hsome : (gather settings).2 ≠ .ok []) : (prepare world settings).2 = (gather settings).2 := by
  cases hgathered : (gather settings).2 with
  | error ending => exact prepare_error_of_gather hgathered
  | ok releases =>
      have hgather : gather settings = ((gather settings).1, .ok releases) :=
        Prod.ext rfl hgathered
      have hne : releases ≠ [] := by
        rintro rfl
        exact hsome hgathered
      obtain ⟨vetting, hvet⟩ : ∃ vetting, vet world settings releases = (vetting, .ok ()) := by
        cases hvalidate : settings.choices.validate with
        | false => exact ⟨_, vet_eq_ok_iff.2 (.inr ⟨hvalidate, hne, rfl⟩)⟩
        | true =>
            obtain ⟨parsed, hwellFormed, hrender⟩ :=
              VersionString.is_version_string_iff_render.1 hvalid
            have hparse := VersionString.parse_render hwellFormed
            rw [hrender] at hparse
            exact ⟨_, vet_eq_ok_iff.2 (.inl ⟨hvalidate, parsed, hparse, rfl⟩)⟩
      rw [prepare_eq_ok_iff.2 ⟨_, vetting, hgather, hvet, rfl⟩]

/-- The check of a valid version-string does not change the result for releases. -/
theorem same_result_of_validate (hvalid : IsVersionString settings.operands.versionString)
    (hsome : (gather settings).2 ≠ .ok []) (validate : Bool) :
    (Run.ofSettings world level arguments settings).SameResult
      (Run.ofSettings world otherLevel otherArguments
        { settings with choices.validate := validate }) := by
  have hother : (prepare world
      { settings with choices.validate := validate }).2 = (gather settings).2 :=
    prepare_of_valid hvalid hsome
  apply same_result_of_prepare
  · rw [prepare_of_valid hvalid hsome, hother]
  · exact fun _ => rfl

/-! ## The format and the destination of the report -/

/-- `TakesReport world settings destination` says that a destination takes the whole report of a
run, if one is written. -/
def TakesReport (world : World) (settings : Settings) (destination : Destination) : Prop :=
  ∀ releases, (prepare world settings).2 = .ok releases →
    isWritten settings.format (reportOn settings releases) = true →
    world.put destination (reportText settings.format (reportOn settings releases)) = .whole

/-- What is written of a report in the end: all of it, unless there is nothing to report. -/
def reportWritten (format : Report.Format) (destination : Destination) (report : Report) :
    List Event :=
  if isWritten format report then writing destination (reportText format report) else []

section Written

variable {destination : Destination}

/-- A report whose destination can be opened and takes all of it is written as a whole. -/
theorem finish_of_takes {report : Report}
    (hdestination : settings.choices.destination = some destination)
    (hopen : CanOpen world destination)
    (htakes : isWritten settings.format report = true →
      world.put destination (reportText settings.format report) = .whole) :
    finish world settings report =
      (reportWritten settings.format destination report, .exit (closingStatus report)) := by
  unfold reportWritten
  cases hwritten : isWritten settings.format report with
  | true => exact finish_of_whole hwritten hdestination hopen (htakes hwritten)
  | false =>
      rw [finish, hwritten]
      rfl

/-- The format of the report does not change what a run says. -/
theorem said_of_format (format : Report.Format) :
    (Run.ofSettings world level arguments settings).said =
      (Run.ofSettings world otherLevel otherArguments
        { settings with format := format }).said := by
  have hend : ∀ (world : World) (settings : Settings) (report : Report),
      (finish world settings report).1.filterMap Event.said? = [] := by
    intro world settings report
    rw [List.filterMap_eq_nil_iff]
    intro event hevent
    cases event with
    | create | write => rfl
    | read | note | say => exact (not_writes_nothing_of_finish _ _ _ _ hevent trivial).elim
  cases hprepare : prepare world settings with
  | mk events prepared =>
      have hformat : prepare world
          { settings with format := format } = (events, prepared) := hprepare
      cases prepared with
      | error ending =>
          rw [of_settings_of_error hprepare, of_settings_of_error hformat]
          rfl
      | ok releases =>
          rw [of_settings_of_ok hprepare, of_settings_of_ok hformat]
          simp only [Run.said, List.filterMap_append, hend]
          rfl

/-- Nor does it change how a run ends, if the destination takes the report in both formats. -/
theorem ending_of_format (hdestination : settings.choices.destination = some destination)
    (hopen : CanOpen world destination) (format : Report.Format)
    (htakes : TakesReport world settings destination)
    (hother : TakesReport world { settings with format := format } destination) :
    (Run.ofSettings world level arguments settings).ending =
      (Run.ofSettings world otherLevel otherArguments
        { settings with format := format }).ending := by
  cases hprepare : prepare world settings with
  | mk events prepared =>
      have hformat : prepare world
          { settings with format := format } = (events, prepared) := hprepare
      cases prepared with
      | error ending => rw [of_settings_of_error hprepare, of_settings_of_error hformat]
      | ok releases =>
          have hleft := finish_of_takes hdestination hopen (htakes releases (by rw [hprepare]))
          have hright : finish world { settings with format := format }
                (reportOn settings releases) =
              (reportWritten format destination (reportOn settings releases),
                .exit (closingStatus (reportOn settings releases))) :=
            finish_of_takes hdestination hopen (hother releases (by rw [hformat]))
          rw [of_settings_of_ok hprepare, of_settings_of_ok hformat, hleft]
          exact (congrArg Prod.snd hright).symm

/-- A report that is written to a file is found there as the standard output would show it. -/
theorem report_written_cases {before otherBefore : List Event} {threshold otherThreshold : Level}
    {ending : Ending} (h : ∀ event ∈ before, event.WritesNothing)
    (hother : ∀ event ∈ otherBefore, event.WritesNothing) (format : Report.Format)
    (report : Report) (path : Text) :
    ∃ run fileRun,
      run = ⟨threshold, before ++ reportWritten format .standardOutput report, ending⟩ ∧
      fileRun = ⟨otherThreshold, otherBefore ++ reportWritten format (.file path) report, ending⟩ ∧
      Run.files run = [] ∧ Run.standardOutput fileRun = [] ∧
      (Run.standardOutput run = [] ∧ Run.files fileRun = [] ∨
        Run.files fileRun = [(path, Run.standardOutput run)]) := by
  refine ⟨_, _, rfl, rfl, ?_⟩
  unfold reportWritten
  cases isWritten format report with
  | true =>
      simp only [if_true, Run.standard_output_of_writing h, Run.files_of_writing h,
        Run.standard_output_of_writing hother, Run.files_of_writing hother]
      exact ⟨rfl, rfl, .inr rfl⟩
  | false =>
      simp only [Bool.false_eq_true, if_false, List.append_nil,
        Run.standard_output_of_writes_nothing h, Run.files_of_writes_nothing h,
        Run.standard_output_of_writes_nothing hother, Run.files_of_writes_nothing hother]
      exact ⟨trivial, trivial, .inl ⟨trivial, trivial⟩⟩

/-- A run that puts its report into a file ends as the one that shows the report, and the file has
what the other one shows, if that is anything. -/
theorem written_of_destination {path : Text}
    (hdestination : settings.choices.destination = some .standardOutput)
    (hopen : CanOpen world (.file path))
    (hshown : TakesReport world settings .standardOutput)
    (hfiled : TakesReport world settings (.file path)) :
    ∃ run fileRun, run = Run.ofSettings world level arguments settings ∧
      fileRun = Run.ofSettings world otherLevel otherArguments
        { settings with choices.destination := some (.file path) } ∧
      run.ending = fileRun.ending ∧ run.files = [] ∧ fileRun.standardOutput = [] ∧
      (run.standardOutput = [] ∧ fileRun.files = [] ∨
        fileRun.files = [(path, run.standardOutput)]) := by
  refine ⟨_, _, rfl, rfl, ?_⟩
  cases hprepare : prepare world settings with
  | mk events prepared =>
      have hfile : prepare world { settings with choices.destination := some (.file path) } =
          (events, prepared) := hprepare
      cases prepared with
      | error ending =>
          have hnothing : (Run.ofSettings world level arguments settings).LeavesNoTrace :=
            leaves_no_trace_of_prepare hprepare
          have hothers : (Run.ofSettings world otherLevel otherArguments
              { settings with choices.destination := some (.file path) }).LeavesNoTrace :=
            leaves_no_trace_of_prepare hfile
          refine ⟨?_, hnothing.files, hothers.standard_output,
            .inl ⟨hnothing.standard_output, hothers.files⟩⟩
          rw [of_settings_of_error hprepare, of_settings_of_error hfile]
      | ok releases =>
          have hleft := finish_of_takes hdestination .standardOutput
            (hshown releases (by rw [hprepare]))
          have hright : finish world { settings with choices.destination := some (.file path) }
                (reportOn settings releases) =
              (reportWritten settings.format (.file path) (reportOn settings releases),
                .exit (closingStatus (reportOn settings releases))) :=
            finish_of_takes rfl hopen (hfiled releases (by rw [hprepare]))
          have hrun : Run.ofSettings world otherLevel otherArguments
                { settings with choices.destination := some (.file path) } =
              ⟨Run.thresholdFor settings.choices.verbosity otherLevel,
                beforeEnd world otherArguments events (reportOn settings releases) ++
                  reportWritten settings.format (.file path) (reportOn settings releases),
                .exit (closingStatus (reportOn settings releases))⟩ := by
            rw [of_settings_of_ok hfile]
            exact congrArg (fun result => Run.mk _ (_ ++ Prod.fst result) (Prod.snd result)) hright
          rw [of_settings_of_ok hprepare, hleft, hrun]
          obtain ⟨_, _, rfl, rfl, hcases⟩ := report_written_cases
            (writes_nothing_before_end arguments hprepare (reportOn settings releases))
            (writes_nothing_before_end otherArguments hfile (reportOn settings releases))
            settings.format (reportOn settings releases) path
          exact ⟨rfl, hcases⟩

end Written

/-! ## Two command lines -/

/-- Take two command lines that are understood, in worlds that agree but for the level of the log.
If their settings differ in the verbosity at most, the two runs have the same result. If they differ
in the format at most, the runs say the same lines, and they end alike if the destination can be
opened and takes the report in both formats. If one shows its report and the other puts it into a
file that can be opened, and if the report arrives as a whole at both, then they end alike, and the
file has what is shown, if that is anything. If they differ at most in whether the version-string is
checked, and it is valid and there is a release, then the runs have the same result. -/
theorem presentation_of_runs {otherLogLevel : Option Text} (h : Understood world arguments settings)
    (hother : Understood { world with logLevel := otherLogLevel } otherArguments other) :
    ∃ run otherRun, run = Run.ofArguments world arguments ∧
      otherRun = Run.ofArguments { world with logLevel := otherLogLevel } otherArguments ∧
      (other = { settings with choices.verbosity := other.choices.verbosity } →
        run.SameResult otherRun) ∧
      (other = { settings with format := other.format } →
        run.said = otherRun.said ∧
        ∀ destination, settings.choices.destination = some destination →
          CanOpen world destination → TakesReport world settings destination →
          TakesReport world other destination → run.ending = otherRun.ending) ∧
      (other = { settings with choices.destination := other.choices.destination } →
        ∀ path, settings.choices.destination = some .standardOutput →
          other.choices.destination = some (.file path) → CanOpen world (.file path) →
          TakesReport world settings .standardOutput →
          TakesReport world settings (.file path) →
          run.ending = otherRun.ending ∧ run.files = [] ∧ otherRun.standardOutput = [] ∧
            (run.standardOutput = [] ∧ otherRun.files = [] ∨
              otherRun.files = [(path, run.standardOutput)])) ∧
      (other = { settings with choices.validate := other.choices.validate } →
        IsVersionString settings.operands.versionString → (gather settings).2 ≠ .ok [] →
          run.SameResult otherRun) := by
  obtain ⟨level, hrun⟩ := h.run_eq
  obtain ⟨otherLevel, hotherRun⟩ := hother.run_eq
  rw [of_settings_of_log_level] at hotherRun
  refine ⟨_, _, rfl, rfl, ?_⟩
  rw [hrun, hotherRun]
  refine ⟨?_, ?_, ?_, ?_⟩
  · intro hsame
    rw [hsame]
    exact same_result_of_verbosity _
  · intro hsame
    rw [hsame]
    refine ⟨said_of_format _, ?_⟩
    intro destination hdestination hopen htakes hothers
    exact ending_of_format hdestination hopen _ htakes hothers
  · intro hsame path hdestination hotherDestination hopen hshown hfiled
    rw [hotherDestination] at hsame
    rw [hsame]
    obtain ⟨_, _, rfl, rfl, hwritten⟩ := written_of_destination hdestination hopen hshown hfiled
    exact hwritten
  · intro hsame hvalid hsome
    rw [hsame]
    exact same_result_of_validate hvalid hsome _

/-- Asking for the release `1.9` with more of the log, in another format, with the report in a file,
or without a check of the version-string. -/
theorem presentation_of_runs_release :
    ∃ world run verbose formatted filed unchecked, world = World.ofDisk ⟨[], []⟩ .utf8 [] none ∧
      run = Run.ofArguments world ["1.8+".toList, "1.9".toList] ∧
      verbose = Run.ofArguments { world with logLevel := some "error".toList }
        ["-v".toList, "1.8+".toList, "1.9".toList] ∧
      formatted = Run.ofArguments world ["-fjson".toList, "1.8+".toList, "1.9".toList] ∧
      filed = Run.ofArguments world ["-o/a".toList, "1.8+".toList, "1.9".toList] ∧
      unchecked = Run.ofArguments world ["--no-validate".toList, "1.8+".toList, "1.9".toList] ∧
      run.SameResult verbose ∧
      (run.said = formatted.said ∧ run.ending = formatted.ending) ∧
      filed.files = [("/a".toList, run.standardOutput)] ∧ run.SameResult unchecked := by
  have hrun : Understood (.ofDisk ⟨[], []⟩ .utf8 [] none) ["1.8+".toList, "1.9".toList]
      ⟨⟨"1.8+".toList, ["1.9".toList]⟩, .columns, .standard⟩ := ⟨⟨_, rfl⟩, by decide⟩
  have hverbose : Understood
      { World.ofDisk ⟨[], []⟩ .utf8 [] none with logLevel := some "error".toList }
      ["-v".toList, "1.8+".toList, "1.9".toList]
      ⟨⟨"1.8+".toList, ["1.9".toList]⟩, .columns,
        { CommandLine.Choices.standard with verbosity := 1 }⟩ := ⟨⟨_, rfl⟩, by decide⟩
  have hformatted : Understood (.ofDisk ⟨[], []⟩ .utf8 [] none)
      ["-fjson".toList, "1.8+".toList, "1.9".toList]
      ⟨⟨"1.8+".toList, ["1.9".toList]⟩, .json, .standard⟩ := ⟨⟨_, rfl⟩, by decide⟩
  have hfiled : Understood (.ofDisk ⟨[], []⟩ .utf8 [] none)
      ["-o/a".toList, "1.8+".toList, "1.9".toList]
      ⟨⟨"1.8+".toList, ["1.9".toList]⟩, .columns,
        { CommandLine.Choices.standard with destination := some (.file "/a".toList) }⟩ :=
    ⟨⟨_, rfl⟩, by decide⟩
  have hunchecked : Understood (.ofDisk ⟨[], []⟩ .utf8 [] none)
      ["--no-validate".toList, "1.8+".toList, "1.9".toList]
      ⟨⟨"1.8+".toList, ["1.9".toList]⟩, .columns,
        { CommandLine.Choices.standard with validate := false }⟩ := ⟨⟨_, rfl⟩, by decide⟩
  have hvalid : IsVersionString "1.8+".toList :=
    (VersionString.problem_eq_none_iff _).1 (by decide)
  have htakes : ∀ settings destination,
      TakesReport (.ofDisk ⟨[], []⟩ .utf8 [] none) settings destination :=
    fun _ _ _ _ _ => put_of_holds fun _ _ => rfl
  obtain ⟨_, _, rfl, rfl, hverbosity, -⟩ := presentation_of_runs hrun hverbose
  obtain ⟨_, _, rfl, rfl, -, hformat, -⟩ := presentation_of_runs hrun hformatted
  obtain ⟨_, _, rfl, rfl, -, -, hdestination, -⟩ := presentation_of_runs hrun hfiled
  obtain ⟨_, _, rfl, rfl, -, -, -, hvalidate⟩ := presentation_of_runs hrun hunchecked
  refine ⟨_, _, _, _, _, _, rfl, rfl, rfl, rfl, rfl, rfl, hverbosity rfl, ⟨(hformat rfl).1, ?_⟩, ?_,
    hvalidate rfl hvalid (by decide)⟩
  · exact (hformat rfl).2 _ rfl .standardOutput (htakes _ _) (htakes _ _)
  · obtain ⟨-, -, -, ⟨hnothing, -⟩ | hwritten⟩ :=
      hdestination rfl "/a".toList rfl rfl (.file _ (by decide)) (htakes _ _) (htakes _ _)
    · exact absurd hnothing (by decide)
    · exact hwritten

/-- Without any release, only the run with the format `json` has something to write, and so it is
the only one that fails on a device without space. -/
theorem formats_on_full_device :
    ∃ world settings other,
      world = (World.ofDisk ⟨[], []⟩ .utf8 [] none).addFullDevice "/dev/full".toList ∧
      Understood world
        ["-f".toList, "columns".toList, "-o".toList, "/dev/full".toList, "1*".toList] settings ∧
      Understood world
        ["-f".toList, "json".toList, "-o".toList, "/dev/full".toList, "1*".toList] other ∧
      other = { settings with format := other.format } ∧
      settings.choices.destination = some (.file "/dev/full".toList) ∧
      CanOpen world (.file "/dev/full".toList) ∧
      (Run.ofArguments world
        ["-f".toList, "columns".toList, "-o".toList, "/dev/full".toList, "1*".toList]).ending =
          .exit 0 ∧
      (Run.ofArguments world
        ["-f".toList, "json".toList, "-o".toList, "/dev/full".toList, "1*".toList]).ending =
          .fault (.unwritten (.file "/dev/full".toList) .noSpace) :=
  ⟨_, ⟨⟨"1*".toList, []⟩, .columns, ⟨[], false, true, 0, some (.file "/dev/full".toList)⟩⟩,
    ⟨⟨"1*".toList, []⟩, .json, ⟨[], false, true, 0, some (.file "/dev/full".toList)⟩⟩, rfl,
    ⟨⟨_, rfl⟩, by decide⟩, ⟨⟨_, rfl⟩, by decide⟩, rfl, rfl, .file _ (by decide), by decide,
    by decide⟩

end VersionMatch.Session
