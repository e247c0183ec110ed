import VersionMatch.Proofs.CommandLine.Settings
import VersionMatch.Proofs.Session.Failure

/-!
# A run writes last or never

A run writes at most once, and before that it has read every source to its end and has looked at
every release. So a release file is read with the contents from before the run, even if the report
goes to the same file. A run that fails leaves nothing on the standard output and in files, unless
it fails in the writing itself: a file is then created or emptied already, and holds what has
arrived. `run_writes_last_or_never` states this for all worlds and command lines.
-/

namespace VersionMatch.Session

open CommandLine (Destination Inputs Plan Settings Source)
open Log (Level Note)

/-! ## Runs that leave no trace, and runs that break off -/

namespace Run

/-- A run leaves no trace if nothing is on the standard output and no file is created, emptied or
written, so that every disk stays as it was. -/
structure LeavesNoTrace (run : Run) : Prop where
  standard_output : run.standardOutput = []
  files : run.files = []
  disk_after : ∀ disk, run.diskAfter disk = disk
  changes : ∀ disk, run.changes disk = []

theorem leaves_no_trace_iff {run : Run} :
    run.LeavesNoTrace ↔ run.standardOutput = [] ∧ run.files = [] := by
  constructor
  · exact fun h => ⟨h.standard_output, h.files⟩
  · intro ⟨houtput, hfiles⟩
    have hdisk : ∀ disk, run.diskAfter disk = disk := by
      intro disk
      rw [diskAfter, hfiles]
      rfl
    have hchanges : ∀ disk, run.changes disk = [] := by
      intro disk
      rw [changes, hdisk]
      simp [Disk.changes]
    exact ⟨houtput, hfiles, hdisk, hchanges⟩

theorem leaves_no_trace {run : Run} (h : ∀ event ∈ run.events, event.WritesNothing) :
    run.LeavesNoTrace :=
  leaves_no_trace_iff.2 ⟨standard_output_of_writes_nothing h, files_of_writes_nothing h⟩

/-- `run.BreaksOff world destination arrived error` says that a run opens the destination of its
report and then fails to write all of it. What has arrived by then is all that it leaves. -/
structure BreaksOff (run : Run) (world : World) (destination : Destination) (arrived : Text)
    (error : WriteError) : Prop where
  opened : CanOpen world destination
  ending : run.ending = .fault (.unwritten destination error)
  standard_output : run.standardOutput = shownOf destination arrived
  files : run.files = filedOf destination arrived

/-- A run that breaks off leaves no trace only if nothing has arrived at the standard output. -/
theorem BreaksOff.leaves_no_trace_iff {run : Run} {world : World} {destination : Destination}
    {arrived : Text} {error : WriteError} (h : run.BreaksOff world destination arrived error) :
    run.LeavesNoTrace ↔ destination = .standardOutput ∧ arrived = [] := by
  rw [Run.leaves_no_trace_iff, h.standard_output, h.files]
  cases destination with
  | standardOutput => simp [shownOf, filedOf]
  | file path => simp [filedOf]

end Run

variable {world : World} {settings : Settings} {releases : List Text} {events : List Event}
variable {ending : Ending} {arguments : List Text} {level : Level}

/-- A preparation that fails leaves no trace. -/
theorem leaves_no_trace_of_prepare (h : prepare world settings = (events, .error ending)) :
    (Run.ofSettings world level arguments settings).LeavesNoTrace := by
  have hnothing := writes_nothing_of_prepare world settings
  rw [h] at hnothing
  rw [of_settings_of_error h]
  exact Run.leaves_no_trace (List.forall_mem_cons.2 ⟨trivial, hnothing⟩)

/-! ## The end of a run -/

/-- A run that comes to its end and fails there leaves no trace, or it breaks off. -/
theorem trace_of_finished (hprepare : prepare world settings = (events, .ok releases))
    (hfailed : (Run.ofSettings world level arguments settings).Failed) :
    (Run.ofSettings world level arguments settings).LeavesNoTrace ∨
      ∃ destination arrived error,
        (Run.ofSettings world level arguments settings).BreaksOff world destination arrived
          error := by
  have hnothing := writes_nothing_before_end arguments hprepare (reportOn settings releases)
  have hfinished := finished world settings (reportOn settings releases)
  cases hresult : finish world settings (reportOn settings releases) with
  | mk after ending =>
      rw [hresult] at hfinished
      rw [of_settings_of_ok hprepare, hresult]
      cases hfinished with
      | nothing | unnamed | unopened =>
          exact .inl (Run.leaves_no_trace (by simpa using hnothing))
      | broken destination arrived error _ _ hopen _ =>
          exact .inr ⟨destination, arrived, error, hopen, rfl,
            Run.standard_output_of_writing hnothing _ _, Run.files_of_writing hnothing _ _⟩
      | whole => exact absurd hfailed (not_failed_of_finish hprepare (by rw [hresult]))

/-! ## Runs that come to write -/

/-- `run.WritesLast world arguments settings sources lists releases before after` says that a run
first opens and reads all sources and looks at all releases, as they are before the run, and that
it does not write until then. Behind that, it comes to its end in one of the ways that `Finished`
lists, with a single text to write at most. -/
structure Run.WritesLast (run : Run) (world : World) (arguments : List Text) (settings : Settings)
    (sources : List Source) (lists : List (List Text)) (releases : List Text)
    (before after : List Event) : Prop where
  understood : Settings.ofArguments world.inputs arguments = .ok settings
  opened : List.Forall₂ (fun path source => Source.ofPath world.inputs path = .ok source)
    (Plan.ofArguments arguments).releaseFiles sources
  old_contents : ∀ path contents, .file path contents ∈ sources →
    world.inputs.read path = .ok contents
  listed : Listed sources lists
  releases_eq : releases = settings.operands.releases ++ lists.flatten
  events_eq : run.events = before ++ after
  read : sources.map .read <:+: before
  checked : List.Sublist
    (releases.map fun release =>
      Event.note (.checked release
        (Requirement.matchingElement release settings.operands.versionString)))
    before
  writes_nothing : ∀ event ∈ before, event.WritesNothing
  finished : Finished world settings (Report.ofReleases settings.operands.versionString releases
    settings.choices.select) (after, run.ending)

/-- A source that is a file holds what is found at its path. -/
theorem read_of_path {inputs : Inputs} {named path : Text} {contents : CommandLine.Contents}
    (h : Source.ofPath inputs named = .ok (.file path contents)) :
    inputs.read path = .ok contents := by
  unfold Source.ofPath at h
  split at h
  · cases h
  · cases hread : inputs.read named with
    | error error => simp [hread] at h
    | ok found =>
        simp only [hread, Except.ok.injEq, Source.file.injEq] at h
        obtain ⟨rfl, rfl⟩ := h
        exact hread

/-- A source among opened ones that is a file holds what is found at its path. -/
theorem read_of_opened {inputs : Inputs} {paths : List Text} {sources : List Source}
    (h : List.Forall₂ (fun path source => Source.ofPath inputs path = .ok source) paths sources)
    {path : Text} {contents : CommandLine.Contents} (hmem : .file path contents ∈ sources) :
    inputs.read path = .ok contents := by
  obtain ⟨named, -, hnamed⟩ := exists_mem_of_forall_two h _ hmem
  exact read_of_path hnamed

/-- The notes hold one note on the check of each release, in order. -/
theorem checked_sublist_notes (versionString : Text) (releases : List Text) (select : Bool) :
    List.Sublist
      (releases.map fun release =>
        Note.checked release (Requirement.matchingElement release versionString))
      (notes versionString releases select) := by
  have hchecks : List.Sublist
      (releases.map fun release =>
        Note.checked release (Requirement.matchingElement release versionString))
      (releases.flatMap (checkNotes versionString)) := by
    induction releases with
    | nil => exact .slnil
    | cons release releases ih =>
        rw [List.flatMap_cons, checkNotes, List.append_assoc]
        exact (ih.cons_cons _).trans (List.sublist_append_right _ _)
  exact hchecks.trans (List.sublist_append_left _ _)

/-- A run of settings whose preparation succeeds writes last. -/
theorem writes_last_of_prepare
    (hunderstood : Settings.ofArguments world.inputs arguments = .ok settings)
    (hprepare : prepare world settings = (events, .ok releases)) :
    ∃ sources lists before after,
      (Run.ofSettings world level arguments settings).WritesLast world arguments settings sources
        lists releases before after := by
  obtain ⟨reading, vetting, hgather, hvet, hevents⟩ := prepare_eq_ok_iff.1 hprepare
  obtain ⟨sources, lists, hsources, -, hlisted, rfl, hreleases⟩ := gather_eq_ok_iff.1 hgather
  have hopened := Settings.opened_of_arguments hunderstood hsources
  have hchecked := (checked_sublist_notes settings.operands.versionString releases
    settings.choices.select).map Event.note
  rw [List.map_map] at hchecked
  have hwithin : List.Sublist events
      (beforeEnd world arguments events (reportOn settings releases)) :=
    (List.sublist_cons_self _ _).trans (List.sublist_append_left _ _)
  refine ⟨sources, lists, beforeEnd world arguments events (reportOn settings releases),
    (finish world settings (reportOn settings releases)).1, {
    understood := hunderstood
    opened := hopened
    old_contents := fun path contents hmem => read_of_opened hopened hmem
    listed := hlisted
    releases_eq := hreleases
    events_eq := by rw [of_settings_of_ok hprepare]
    read := ?_
    checked := ?_
    writes_nothing := writes_nothing_before_end arguments hprepare _
    finished := ?_ }⟩
  · rw [beforeEnd, hevents]
    exact ⟨[understoodNote world arguments], vetting ++
      (notes settings.operands.versionString releases settings.choices.select).map .note ++
      [.say (closingLine (reportOn settings releases))], by simp⟩
  · refine List.Sublist.trans ?_ hwithin
    rw [hevents]
    exact hchecked.trans (List.sublist_append_right _ _)
  · rw [of_settings_of_ok hprepare]
    exact finished world settings (reportOn settings releases)

/-! ## All runs -/

/-- The run of a command line that is refused leaves no trace, unless it answers a request. -/
theorem leaves_no_trace_of_refusal {refusal : CommandLine.Refusal}
    (h : (Run.ofRefusal world level arguments refusal).Failed) :
    (Run.ofRefusal world level arguments refusal).LeavesNoTrace := by
  cases refusal with
  | usage error =>
      exact Run.leaves_no_trace
        (List.forall_mem_cons.2 ⟨trivial, List.forall_mem_singleton.2 trivial⟩)
  | unnamedFormat verbosity => exact Run.leaves_no_trace (List.forall_mem_singleton.2 trivial)
  | help | version => exact absurd h (not_failed_of_answer _)

/-- A run that fails leaves no trace, or it breaks off. -/
theorem trace_of_failed (h : (Run.ofArguments world arguments).Failed) :
    (Run.ofArguments world arguments).LeavesNoTrace ∨
      ∃ destination arrived error,
        (Run.ofArguments world arguments).BreaksOff world destination arrived error := by
  have hcourse := course world arguments
  generalize Run.ofArguments world arguments = run at h hcourse ⊢
  cases hcourse with
  | unset name _ => exact .inl (Run.leaves_no_trace (List.forall_mem_nil _))
  | refused level refusal _ => exact .inl (leaves_no_trace_of_refusal h)
  | unprepared level settings events ending _ hprepare =>
      exact .inl (leaves_no_trace_of_prepare hprepare)
  | prepared level settings events releases _ hprepare => exact trace_of_finished hprepare h

/-- A run that fails, but not in writing, neither comes to the end of its report nor breaks off. -/
theorem not_breaks_off {run : Run} (hfailed : run.Failed)
    (hbefore : ∀ destination error, run.ending ≠ .fault (.unwritten destination error)) :
    ¬ (¬ run.Failed ∨ ∃ destination arrived error,
      run.BreaksOff world destination arrived error) := by
  rintro (hnot | ⟨destination, arrived, error, hbreak⟩)
  · exact hnot hfailed
  · exact hbefore destination error hbreak.ending

/-- A run that does not fail, or breaks off, answers a request for help or the version, or it writes
last. -/
theorem writes_last_of_ending
    (h : ¬ (Run.ofArguments world arguments).Failed ∨ ∃ destination arrived error,
      (Run.ofArguments world arguments).BreaksOff world destination arrived error) :
    Settings.ofArguments world.inputs arguments = .error .help ∨
    Settings.ofArguments world.inputs arguments = .error .version ∨
    ∃ settings sources lists releases before after,
      (Run.ofArguments world arguments).WritesLast world arguments settings sources lists releases
        before after := by
  have hcourse := course world arguments
  generalize Run.ofArguments world arguments = run at h hcourse ⊢
  cases hcourse with
  | unset name _ => exact absurd h (not_breaks_off (.fault _ rfl) fun _ _ h => by cases h)
  | refused level refusal hrefusal =>
      cases refusal with
      | help => exact .inl hrefusal
      | version => exact .inr (.inl hrefusal)
      | usage error => exact absurd h (not_breaks_off (.usage rfl) fun _ _ h => by cases h)
      | unnamedFormat verbosity =>
          exact absurd h (not_breaks_off (.fault _ rfl) fun _ _ h => by cases h)
  | unprepared level settings events ending _ hprepare =>
      refine absurd h (not_breaks_off (failed_of_prepare (by rw [hprepare])) ?_)
      intro destination error hending
      rw [of_settings_of_error hprepare] at hending
      obtain rfl : ending = .fault (.unwritten destination error) := hending
      exact before_writing_of_prepare (by rw [hprepare]) destination error rfl
  | prepared level settings events releases hsettings hprepare =>
      obtain ⟨sources, lists, before, after, hlast⟩ := writes_last_of_prepare hsettings hprepare
      exact .inr (.inr ⟨settings, sources, lists, releases, before, after, hlast⟩)

/-- Of the runs of the program in any world, those that meet a hindrance fail, and no others. Those
that fail leave no trace, apart from those that break off at a file, or at the standard output when
some of the report has arrived. All runs that break off or do not fail answer a request for help or
the version, or write last. -/
theorem run_writes_last_or_never (world : World) (arguments : List Text) :
    ∃ run, run = Run.ofArguments world arguments ∧
      (run.Failed ↔ Hindrance world arguments) ∧
      (run.Failed → (run.LeavesNoTrace ↔ ∀ destination arrived error,
        run.BreaksOff world destination arrived error →
          destination = .standardOutput ∧ arrived = [])) ∧
      ((¬ run.Failed ∨ ∃ destination arrived error,
          run.BreaksOff world destination arrived error) →
        Settings.ofArguments world.inputs arguments = .error .help ∨
        Settings.ofArguments world.inputs arguments = .error .version ∨
        ∃ settings sources lists releases before after,
          run.WritesLast world arguments settings sources lists releases before after) := by
  refine ⟨_, rfl, failed_iff_hindrance, ?_, writes_last_of_ending⟩
  intro hfailed
  constructor
  · intro htrace destination arrived error hbreaks
    exact hbreaks.leaves_no_trace_iff.1 htrace
  · intro hbreaks
    rcases trace_of_failed hfailed with htrace | ⟨destination, arrived, error, hbreak⟩
    · exact htrace
    · exact hbreak.leaves_no_trace_iff.2 (hbreaks destination arrived error hbreak)

/-- In an encoding of ASCII only, the report on a release with another letter cannot be written. The
file for it is there all the same. -/
theorem run_leaves_empty_file :
    ∃ disk run, disk = ⟨[], []⟩ ∧
      run = Run.ofArguments (.ofDisk disk .ascii [] none)
        ["-f".toList, "markdown".toList, "-o".toList, "out.md".toList, "1*".toList,
          "1.é".toList] ∧
      run.Failed ∧ run.changes disk = [(["out.md".toList], [])] :=
  ⟨_, _, rfl, rfl, .fault _ rfl, by decide⟩

/-- A run that puts its report into the file with its releases reads the releases before. -/
example :
    (Run.ofArguments (.ofDisk ⟨[], [(["a".toList], "1.9\n".toList)]⟩ .utf8 [] none)
      ["-ra".toList, "-oa".toList, "1.8+".toList]).changes
        ⟨[], [(["a".toList], "1.9\n".toList)]⟩ =
      [(["a".toList], ("Release Acceptable Matched Element\n" ++
        "------- ---------- ---------------\n1.9     yes        1.8+\n").toList)] := by
  decide

end VersionMatch.Session
