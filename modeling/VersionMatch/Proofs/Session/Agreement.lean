import VersionMatch.Proofs.CommandLine.Settings
import VersionMatch.Proofs.Report
import VersionMatch.Proofs.Session.Course

/-!
# A run agrees with the library

A run that comes to match releases answers with what the library says about them: its summary counts
the acceptable releases, its report lists the matching element of each release, what it selects is
the selection among all of them, and its status tells whether any is acceptable, unless the report
does not arrive. `run_agrees_with_library` states this for every world, command line and format and
every destination that can be opened.
-/

namespace VersionMatch.Session

open CommandLine (Destination Plan Settings Source)
open Log (Level)

/-! ## What the events of a run with a report show -/

section Views

variable {threshold : Level} {silent : List Event} {summary text : Text}
variable {destination : Destination} {ending : Ending}

/-- The events of a run that says a line and then writes to a destination. -/
def reporting (silent : List Event) (summary : Text) (destination : Destination) (text : Text) :
    List Event :=
  (silent ++ [.say summary]) ++ writing destination text

/-- Only the line is said. -/
theorem say_mem_reporting_iff (h : ∀ event ∈ silent, event.Silent) {line : Text} :
    Event.say line ∈ reporting silent summary destination text ↔ line = summary := by
  have hnot : Event.say line ∉ silent := fun hmem => h _ hmem
  cases destination <;> simp [reporting, writing, opening, hnot]

/-- The line is the last thing on the standard error. -/
theorem suffix_standard_error :
    summary ++ ['\n'] <:+
      Run.standardError ⟨threshold, reporting silent summary destination text, ending⟩ := by
  rw [Run.standardError, reporting, List.append_assoc, List.flatMap_append]
  exact ⟨silent.flatMap (Event.onStandardError threshold), by
    cases destination <;> simp [Event.onStandardError, writing, opening]⟩

/-- What comes after silent events and a line is all that is written. -/
theorem writes_nothing_before_report (h : ∀ event ∈ silent, event.Silent) :
    ∀ event ∈ silent ++ [.say summary], event.WritesNothing :=
  List.forall_mem_append.2 ⟨fun event hevent => (h event hevent).writes_nothing,
    List.forall_mem_singleton.2 trivial⟩

end Views

/-! ## Runs that match releases -/

/-- `ReachesMatching world arguments settings releases` says that a command line is understood, that
all releases are read and there are some, and that the version-string passes, so that the run goes
on to match the releases. -/
structure ReachesMatching (world : World) (arguments : List Text) (settings : Settings)
    (releases : List Text) : Prop extends Understood world arguments settings where
  gathered : (gather settings).2 = .ok releases
  vetted : (vet world settings releases).2 = .ok ()
  ne_nil : releases ≠ []

variable {world : World} {arguments : List Text} {settings : Settings} {releases : List Text}
variable {destination : Destination}

/-- A check that comes to match releases has prepared its report on them. -/
theorem ReachesMatching.prepare_eq (h : ReachesMatching world arguments settings releases) :
    ∃ events, prepare world settings = (events, .ok releases) := by
  have hgather : gather settings = ((gather settings).1, .ok releases) :=
    Prod.ext rfl h.gathered
  have hvet : vet world settings releases = ((vet world settings releases).1, .ok ()) :=
    Prod.ext rfl h.vetted
  exact ⟨_, prepare_eq_ok_iff.2 ⟨_, _, hgather, hvet, rfl⟩⟩

/-- The run of a command line that comes to match releases: silent events, the summary, and as much
of the report as arrives. -/
theorem ReachesMatching.run_eq (h : ReachesMatching world arguments settings releases)
    (hdestination : settings.choices.destination = some destination)
    (hopen : CanOpen world destination) {report : Report} {text : Text}
    (hreport : report = reportOn settings releases)
    (htext : text = reportText settings.format report) :
    ∃ threshold silent arrived ending, (∀ event ∈ silent, event.Silent) ∧
      Run.ofArguments world arguments =
        ⟨threshold, reporting silent report.summary destination arrived, ending⟩ ∧
      (world.put destination text = .whole → arrived = text ∧
        ending = .exit (if report.acceptableCount = 0 then 1 else 0)) ∧
      ∀ part error, world.put destination text = .broken part error →
        arrived = part ∧ ending = .fault (.unwritten destination error) := by
  obtain ⟨level, hrun⟩ := h.toUnderstood.run_eq
  obtain ⟨events, hprepare⟩ := h.prepare_eq
  have houtcomes : report.outcomes ≠ [] := by
    rw [hreport, ← List.length_pos_iff]
    show 0 < (Report.ofReleases settings.operands.versionString releases
      settings.choices.select).outcomes.length
    rw [Report.length_outcomes_of_releases, List.length_pos_iff]
    exact h.ne_nil
  have hsome := List.isEmpty_eq_false_iff.2 houtcomes
  have hline : closingLine report = report.summary := by simp [closingLine, hsome]
  have hstatus : closingStatus report = if report.acceptableCount = 0 then 1 else 0 := by
    simp [closingStatus, hsome]
  have hwritten : isWritten settings.format report = true := by simp [isWritten, hsome]
  have hsilent : ∀ event ∈ understoodNote world arguments :: events, event.Silent :=
    List.forall_mem_cons.2 ⟨trivial, silent_of_prepare hprepare⟩
  rw [of_settings_of_ok hprepare, beforeEnd, ← hreport, hline] at hrun
  subst htext
  cases hput : world.put destination (reportText settings.format report) with
  | whole =>
      rw [finish_of_whole hwritten hdestination hopen hput, hstatus] at hrun
      exact ⟨_, _, _, _, hsilent, hrun, fun _ => ⟨rfl, rfl⟩, fun _ _ h => by cases h⟩
  | broken part error =>
      rw [finish_of_broken hwritten hdestination hopen hput] at hrun
      refine ⟨_, _, _, _, hsilent, hrun, ?_, ?_⟩
      · intro hwhole
        cases hwhole
      · intro arrived other hsame
        cases hsame
        exact ⟨rfl, rfl⟩

/-- `Run.AgreesWithLibrary world arguments settings releases destination run …` says that a run
answers with what the library says about the releases. These are the ones on the command line and
then those of each release file, in the order of the options. A release is selected on request. The
summary counts the acceptable releases, and the text that is written shows each release with its
matching element. If the destination takes the whole text, the status tells whether there is an
acceptable release, and the text is all that the run writes. -/
structure Run.AgreesWithLibrary (world : World) (arguments : List Text) (settings : Settings)
    (releases : List Text) (destination : Destination) (run : Run) (sources : List Source)
    (lists : List (List Text)) (selected : Option Text) (summary text : Text) : Prop where
  opened : List.Forall₂ (fun path source => Source.ofPath world.inputs path = .ok source)
    (Plan.ofArguments arguments).releaseFiles sources
  listed : Listed sources lists
  releases_eq : releases = settings.operands.releases ++ lists.flatten
  selected_eq : selected = if settings.choices.select
    then Selection.select? releases settings.operands.versionString else none
  summary_eq : summary = "Found ".toList ++
    Text.ofNat (Selection.acceptable releases settings.operands.versionString).length ++
    (if (Selection.acceptable releases settings.operands.versionString).length = 1
      then " acceptable release out of ".toList else " acceptable releases out of ".toList) ++
    Text.ofNat releases.length ++
    selected.elim [] fun release => "; selected ".toList ++ release
  said : ∀ line, Event.say line ∈ run.events ↔ line = summary
  standard_error : summary ++ ['\n'] <:+ run.standardError
  text_eq : text = Report.render settings.format ⟨settings.operands.versionString,
    releases.map fun release =>
      ⟨release, Requirement.matchingElement release settings.operands.versionString⟩,
    selected⟩ ++ ['\n']
  object : settings.format = .json → text = Json.render (.object [
    ("version_string".toList, .string settings.operands.versionString),
    ("releases".toList, .array (releases.map fun release => .object [
      ("release".toList, .string release),
      ("acceptable".toList, .bool
        (Requirement.matchingElement release settings.operands.versionString).isSome),
      ("matched_element".toList, Json.ofOption
        (Requirement.matchingElement release settings.operands.versionString))])),
    ("selected".toList, Json.ofOption selected)]) ++ ['\n']
  status : world.put destination text = .whole → run.ending =
    .exit (if Selection.acceptable releases settings.operands.versionString = [] then 1 else 0)
  selected_iff : world.put destination text = .whole → settings.choices.select = true →
    (selected.isSome = true ↔ run.ending = .exit 0)
  shown : world.put destination text = .whole → destination = .standardOutput →
    run.standardOutput = text ∧ run.files = []
  filed : world.put destination text = .whole → ∀ path, destination = .file path →
    run.standardOutput = [] ∧ run.files = [(path, text)]
  broken : ∀ arrived error, world.put destination text = .broken arrived error →
    run.ending = .fault (.unwritten destination error)

/-- On request a release is selected exactly if there is an acceptable one. -/
theorem selected_is_some_iff {versionString : Text} {select : Bool} (hselect : select = true) :
    (if select then Selection.select? releases versionString else none).isSome = true ↔
      Selection.acceptable releases versionString ≠ [] := by
  rw [if_pos hselect, ne_eq, ← Selection.select_eq_none_iff, Option.isSome_iff_ne_none]

/-- A run that comes to match releases and can open its destination agrees with the library about
them. -/
theorem run_agrees_with_library (hreaches : ReachesMatching world arguments settings releases)
    (hdestination : settings.choices.destination = some destination)
    (hopen : CanOpen world destination) :
    ∃ sources lists selected summary text,
      (Run.ofArguments world arguments).AgreesWithLibrary world arguments settings releases
        destination sources lists selected summary text := by
  obtain ⟨sources, lists, hsources, -, hlisted, -, hreleases⟩ :=
    gather_eq_ok_iff.1 (Prod.ext rfl hreaches.gathered : gather settings = (_, .ok releases))
  obtain ⟨threshold, silent, arrived, ending, hsilent, hrun, hwhole, hbroken⟩ :=
    hreaches.run_eq hdestination hopen rfl rfl
  have hstatus : (if (reportOn settings releases).acceptableCount = 0 then 1 else 0) =
      if Selection.acceptable releases settings.operands.versionString = [] then 1 else 0 := by
    rw [reportOn, Report.acceptable_count_of_releases]
    simp only [List.length_eq_zero_iff]
  rw [hstatus] at hwhole
  refine ⟨sources, lists, _, _, _, {
    opened := Settings.opened_of_arguments hreaches.understood hsources
    listed := hlisted
    releases_eq := hreleases
    selected_eq := rfl
    summary_eq := Report.summary_of_releases
    said := ?_
    standard_error := ?_
    text_eq := rfl
    object := ?_
    status := ?_
    selected_iff := ?_
    shown := ?_
    filed := ?_
    broken := ?_ }⟩
  · intro line
    rw [hrun]
    exact say_mem_reporting_iff hsilent
  · rw [hrun]
    exact suffix_standard_error
  · intro hformat
    rw [hformat]
    exact congrArg (fun object => Json.render object ++ ['\n']) Report.object_of_releases
  · intro hput
    rw [hrun]
    exact (hwhole hput).2
  · intro hput hselect
    rw [hrun, selected_is_some_iff hselect, (hwhole hput).2]
    by_cases hnil : Selection.acceptable releases settings.operands.versionString = []
    · simp [hnil]
    · simp [hnil]
  · rintro hput rfl
    rw [hrun, (hwhole hput).1]
    exact ⟨Run.standard_output_of_writing (writes_nothing_before_report hsilent) _ _,
      Run.files_of_writing (writes_nothing_before_report hsilent) _ _⟩
  · rintro hput path rfl
    rw [hrun, (hwhole hput).1]
    exact ⟨Run.standard_output_of_writing (writes_nothing_before_report hsilent) _ _,
      Run.files_of_writing (writes_nothing_before_report hsilent) _ _⟩
  · intro part error hput
    rw [hrun]
    exact (hbroken part error hput).2

/-- Of the release `1.9` on the command line and the release `1.7` on the standard input, the first
one is acceptable and selected. -/
theorem run_agrees_with_library_select :
    ∃ run, Run.ofArguments (.ofDisk ⟨[], []⟩ .utf8 "1.7\n".toList none)
        ["-fjson".toList, "--select".toList, "-r".toList, "-".toList, "1.8+".toList,
          "1.9".toList] = run ∧
      run.ending = .exit 0 ∧
      .say "Found 1 acceptable release out of 2; selected 1.9".toList ∈ run.events ∧
      run.standardOutput = Json.render (.object [
        ("version_string".toList, .string "1.8+".toList),
        ("releases".toList, .array [
          .object [("release".toList, .string "1.9".toList), ("acceptable".toList, .bool true),
            ("matched_element".toList, .string "1.8+".toList)],
          .object [("release".toList, .string "1.7".toList), ("acceptable".toList, .bool false),
            ("matched_element".toList, .null)]]),
        ("selected".toList, .string "1.9".toList)]) ++ ['\n'] := by
  have hreaches : ReachesMatching (.ofDisk ⟨[], []⟩ .utf8 "1.7\n".toList none)
      ["-fjson".toList, "--select".toList, "-r".toList, "-".toList, "1.8+".toList, "1.9".toList]
      ⟨⟨"1.8+".toList, ["1.9".toList]⟩, .json,
        ⟨[some (.standardInput (.decoded "1.7\n".toList))], true, true, 0, some .standardOutput⟩⟩
      ["1.9".toList, "1.7".toList] :=
    ⟨⟨⟨_, rfl⟩, by decide⟩, by decide, by decide, by decide⟩
  have hacceptable : Selection.acceptable ["1.9".toList, "1.7".toList] "1.8+".toList =
      ["1.9".toList] := by decide
  have hselect : Selection.select? ["1.9".toList, "1.7".toList] "1.8+".toList =
      some "1.9".toList := by decide
  obtain ⟨_, _, selected, summary, text, hagrees⟩ :=
    run_agrees_with_library hreaches rfl .standardOutput
  have hwhole : Encoding.put .utf8 text = .whole := put_of_holds fun _ _ => rfl
  have hselected : selected = some "1.9".toList := by
    rw [hagrees.selected_eq, if_pos rfl, hselect]
  refine ⟨_, rfl, ?_, (hagrees.said _).2 ?_, ?_⟩
  · rw [hagrees.status hwhole, hacceptable]
    rfl
  · rw [hagrees.summary_eq, hacceptable, hselected]
    decide
  · rw [(hagrees.shown hwhole rfl).1, hagrees.object rfl, hselected]
    rfl

/-- With a device that can be opened but has no space, the run on an acceptable release does not end
with the status 0. -/
theorem run_on_full_device :
    ∃ world arguments settings,
      world = (World.ofDisk ⟨[], []⟩ .utf8 [] none).addFullDevice "/dev/full".toList ∧
      arguments = ["-o".toList, "/dev/full".toList, "1*".toList, "1.6".toList] ∧
      ReachesMatching world arguments settings ["1.6".toList] ∧
      settings.choices.destination = some (.file "/dev/full".toList) ∧
      CanOpen world (.file "/dev/full".toList) ∧
      Selection.acceptable ["1.6".toList] settings.operands.versionString ≠ [] ∧
      (Run.ofArguments world arguments).ending =
        .fault (.unwritten (.file "/dev/full".toList) .noSpace) :=
  ⟨_, _, ⟨⟨"1*".toList, ["1.6".toList]⟩, .columns,
      ⟨[], false, true, 0, some (.file "/dev/full".toList)⟩⟩, rfl, rfl,
    ⟨⟨⟨_, rfl⟩, by decide⟩, by decide, by decide, by decide⟩, rfl, .file _ (by decide), by decide,
    by decide⟩

end VersionMatch.Session
