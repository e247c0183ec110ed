import Mathlib.Data.Set.List
import VersionMatch.Proofs.Expression.Failure
import VersionMatch.Proofs.Expression.Pointwise
import VersionMatch.Proofs.Session.Course

/-!
# Runs that fail

A run fails with a usage error, because of its version-string, or with a fault. `Hindrance` lists
what can stand in the way of a run, from the log level to the last character of its report.
`failed_iff_hindrance` says that the runs that fail are those that meet one of them.
-/

namespace VersionMatch.Session

open CommandLine (Destination Settings Source UsageError)
open Log (Level)

/-- A run fails with a usage error, because of its version-string, or with a fault. -/
inductive Run.Failed (run : Run) : Prop where
  | usage : run.ending = .exit 2 → Failed run
  | invalid (error) : .note (.invalid error) ∈ run.events → run.ending = .exit 1 → Failed run
  | fault (fault) : run.ending = .fault fault → Failed run

variable {world : World} {settings : Settings} {releases : List Text} {events : List Event}
variable {ending : Ending} {arguments : List Text} {level : Level}

/-! ## Reading the releases -/

/-- What makes it impossible to read sources one after the other: one of them is missing, the
standard input is named twice, or one of them is no text. -/
inductive Unreadable (entries : List (Option Source)) : Prop where
  | unnamed : none ∈ entries → Unreadable entries
  | inputTwice (sources : List Source) : entries = sources.map some →
      2 ≤ sources.countP Source.isStandardInput → Unreadable entries
  | undecodable (source complaint) : some source ∈ entries →
      source.releases = .error complaint → Unreadable entries

/-- Sources of texts list their releases. -/
theorem exists_listed {sources : List Source}
    (h : ∀ source ∈ sources, ∀ complaint, source.releases ≠ .error complaint) :
    ∃ lists, Listed sources lists := by
  induction sources with
  | nil => exact ⟨[], .nil⟩
  | cons source sources ih =>
      obtain ⟨hsource, hothers⟩ := List.forall_mem_cons.1 h
      obtain ⟨lists, hlists⟩ := ih hothers
      cases hlist : source.releases with
      | error complaint => exact absurd hlist (hsource complaint)
      | ok list => exact ⟨list :: lists, .cons hlist hlists⟩

/-- Sources can be read one after the other, or there is something that makes it impossible. -/
theorem unreadable_or_listed (entries : List (Option Source)) :
    Unreadable entries ∨ ∃ (sources : List Source) (lists : List (List Text)),
      entries = sources.map some ∧ Readable true sources ∧ Listed sources lists := by
  by_cases hnamed : none ∈ entries
  · exact .inl (.unnamed hnamed)
  · obtain ⟨sources, rfl⟩ : entries ∈ Set.range (List.map some) := by
      rw [Set.range_list_map]
      intro entry hentry
      exact Option.ne_none_iff_exists.1 (ne_of_mem_of_not_mem hentry hnamed)
    by_cases htwice : 2 ≤ sources.countP Source.isStandardInput
    · exact .inl (.inputTwice sources rfl htwice)
    · by_cases hdecoded : ∀ source ∈ sources, ∀ complaint, source.releases ≠ .error complaint
      · obtain ⟨lists, hlists⟩ := exists_listed hdecoded
        exact .inr ⟨sources, lists, rfl, Nat.lt_succ_iff.1 (not_le.1 htwice), hlists⟩
      · push Not at hdecoded
        obtain ⟨source, hsource, complaint, hcomplaint⟩ := hdecoded
        exact .inl (.undecodable source complaint (List.mem_map_of_mem hsource) hcomplaint)

/-- What makes it impossible to read the sources is absent where the releases are gathered. -/
theorem not_unreadable_of_gather (h : (gather settings).2 = .ok releases) :
    ¬ Unreadable settings.choices.sources := by
  obtain ⟨sources, lists, hsources, hreadable, hlisted, -⟩ :=
    gather_eq_ok_iff.1 (Prod.ext rfl h : gather settings = (_, .ok releases))
  rw [hsources]
  intro hunreadable
  cases hunreadable with
  | unnamed hnone =>
      obtain ⟨source, -, hsource⟩ := List.mem_map.1 hnone
      cases hsource
  | inputTwice others hothers htwice =>
      obtain rfl : sources = others :=
        List.map_injective_iff.2 (fun _ _ => Option.some.inj) hothers
      have honce : sources.countP Source.isStandardInput ≤ 1 := hreadable
      omega
  | undecodable source complaint hmem hcomplaint =>
      obtain ⟨named, hnamed, heq⟩ := List.mem_map.1 hmem
      cases heq
      obtain ⟨list, -, hlist⟩ := exists_mem_of_forall_two hlisted.flip source hnamed
      rw [hcomplaint] at hlist
      cases hlist

/-- Gathering the releases fails exactly if it is impossible to read the sources. -/
theorem gather_fails_iff :
    (∃ ending, (gather settings).2 = .error ending) ↔ Unreadable settings.choices.sources := by
  cases hgather : (gather settings).2 with
  | ok releases => simp [not_unreadable_of_gather hgather]
  | error ending =>
      rcases unreadable_or_listed settings.choices.sources with
        hunreadable | ⟨sources, lists, hsources, hreadable, hlisted⟩
      · simp [hunreadable]
      · rw [gather_eq_ok_iff.2 ⟨sources, lists, hsources, hreadable, hlisted, rfl, rfl⟩] at hgather
        cases hgather

/-! ## The preparation -/

/-- The preparation fails where gathering the releases does. -/
theorem prepare_error_of_gather (h : (gather settings).2 = .error ending) :
    (prepare world settings).2 = .error ending := by
  have hgather : gather settings = ((gather settings).1, .error ending) := Prod.ext rfl h
  rw [prepare_eq_error_iff.2 (.inl hgather)]

/-- The preparation fails where vetting the version-string does. -/
theorem prepare_error_of_vet (hgather : (gather settings).2 = .ok releases)
    (hvet : vet world settings releases = (events, .error ending)) :
    (prepare world settings).2 = .error ending := by
  have hgathered : gather settings = ((gather settings).1, .ok releases) := Prod.ext rfl hgather
  rw [prepare_eq_error_iff.2 (.inr ⟨_, events, releases, hgathered, hvet, rfl⟩)]

/-- A preparation that fails makes the run fail. -/
theorem failed_of_prepare (h : (prepare world settings).2 = .error ending) :
    (Run.ofSettings world level arguments settings).Failed := by
  have hprepare : prepare world settings = ((prepare world settings).1, .error ending) :=
    Prod.ext rfl h
  rw [of_settings_of_error hprepare]
  rcases prepare_eq_error_iff.1 hprepare with
    hgather | ⟨reading, vetting, releases, -, hvet, hevents⟩
  · obtain ⟨fault, rfl, -⟩ := (gather_cases settings).2 ending (by rw [hgather])
    exact .fault fault rfl
  · rcases vet_eq_error_iff.1 hvet with ⟨-, error, -, rfl, rfl⟩ | ⟨-, -, husage⟩
    · exact .invalid error (by simp [hevents]) rfl
    · cases husage
      exact .usage rfl

/-- A preparation that succeeds has no complaint about the version-string. -/
theorem invalid_not_mem_of_prepare (h : prepare world settings = (events, .ok releases))
    (error : Error) : .note (.invalid error) ∉ events := by
  obtain ⟨reading, vetting, hgather, hvet, rfl⟩ := prepare_eq_ok_iff.1 h
  have hreading := (gather_cases settings).1
  rw [hgather] at hreading
  simp only [List.mem_append, not_or]
  refine ⟨⟨?_, ?_⟩, ?_⟩
  · intro hmem
    obtain ⟨source, hsource⟩ := hreading _ hmem
    cases hsource
  · intro hmem
    rcases vet_eq_ok_iff.1 hvet with ⟨-, parsed, -, rfl⟩ | ⟨-, -, rfl⟩
    · simp at hmem
    · simp at hmem
  · simp [notes, checkNotes, selectionNotes, rejectionNotes]

/-! ## The end -/

/-- A preparation that succeeds and an end that is a fault make the run fail. -/
theorem failed_of_finish {fault : Fault} (h : (prepare world settings).2 = .ok releases)
    (hfinish : (finish world settings (reportOn settings releases)).2 = .fault fault) :
    (Run.ofSettings world level arguments settings).Failed := by
  have hprepare : prepare world settings = ((prepare world settings).1, .ok releases) :=
    Prod.ext rfl h
  rw [of_settings_of_ok hprepare]
  exact .fault fault hfinish

/-- A run that comes to its end with the status of its report does not fail. -/
theorem not_failed_of_finish (h : prepare world settings = (events, .ok releases))
    (hfinish : (finish world settings (reportOn settings releases)).2 =
      .exit (closingStatus (reportOn settings releases))) :
    ¬ (Run.ofSettings world level arguments settings).Failed := by
  rw [of_settings_of_ok h, hfinish]
  intro hfailed
  cases hfailed with
  | usage hending =>
      simp only [closingStatus, Ending.exit.injEq] at hending
      split at hending <;> cases hending
  | invalid error hmem _ =>
      have hbefore := invalid_not_mem_of_prepare h error
      have hend : .note (.invalid error) ∉ (finish world settings (reportOn settings releases)).1 :=
        fun hmem => not_writes_nothing_of_finish _ _ _ _ hmem trivial
      simp [beforeEnd, understoodNote, hbefore, hend] at hmem
  | fault _ hending => cases hending

/-- An answer is no failure. -/
theorem not_failed_of_answer (answer : Text) : ¬ (Run.ofAnswer level answer).Failed := by
  intro hfailed
  cases hfailed with
  | usage hending => cases hending
  | invalid _ _ hending => cases hending
  | fault _ hending => cases hending

/-! ## All runs -/

/-- What stands in the way of a run: a setting of the log level that is no level, a command line
that is not in order, as one with a release file that cannot be opened, sources that cannot be read,
nothing to check, a version-string that is not valid, or a report whose destination is missing,
cannot be opened or does not take all of it. -/
inductive Hindrance (world : World) (arguments : List Text) : Prop where
  | logLevel (name : Text) :
      Level.ofSetting world.logLevel = .error name → Hindrance world arguments
  | usage (error : UsageError) :
      Settings.ofArguments world.inputs arguments = .error (.usage error) →
      Hindrance world arguments
  | unnamedFormat (verbosity : Nat) :
      Settings.ofArguments world.inputs arguments = .error (.unnamedFormat verbosity) →
      Hindrance world arguments
  | unreadable (settings : Settings) :
      Settings.ofArguments world.inputs arguments = .ok settings →
      Unreadable settings.choices.sources → Hindrance world arguments
  | nothingToCheck (settings : Settings) :
      Settings.ofArguments world.inputs arguments = .ok settings →
      (gather settings).2 = .ok [] → settings.choices.validate = false →
      Hindrance world arguments
  | invalid (settings : Settings) (releases : List Text) (problem : Problem) :
      Settings.ofArguments world.inputs arguments = .ok settings →
      (gather settings).2 = .ok releases → settings.choices.validate = true →
      VersionString.problem? settings.operands.versionString = some problem →
      Hindrance world arguments
  | unnamedDestination (settings : Settings) (releases : List Text) :
      Settings.ofArguments world.inputs arguments = .ok settings →
      (prepare world settings).2 = .ok releases →
      isWritten settings.format (reportOn settings releases) = true →
      settings.choices.destination = none → Hindrance world arguments
  | unopened (settings : Settings) (releases : List Text) (path : Text) (error : FileError) :
      Settings.ofArguments world.inputs arguments = .ok settings →
      (prepare world settings).2 = .ok releases →
      isWritten settings.format (reportOn settings releases) = true →
      settings.choices.destination = some (.file path) → world.create path = .error error →
      Hindrance world arguments
  | unwritten (settings : Settings) (releases : List Text) (destination : Destination)
      (arrived : Text) (error : WriteError) :
      Settings.ofArguments world.inputs arguments = .ok settings →
      (prepare world settings).2 = .ok releases →
      isWritten settings.format (reportOn settings releases) = true →
      settings.choices.destination = some destination → CanOpen world destination →
      world.put destination (reportText settings.format (reportOn settings releases)) =
        .broken arrived error →
      Hindrance world arguments

/-- A command line whose settings cannot but fail makes the run fail, whatever the log level. -/
theorem failed_of_settings (hsettings : Settings.ofArguments world.inputs arguments = .ok settings)
    (hfailed : ∀ level, (Run.ofSettings world level arguments settings).Failed) :
    (Run.ofArguments world arguments).Failed := by
  unfold Run.ofArguments
  cases Level.ofSetting world.logLevel with
  | error name => exact .fault _ rfl
  | ok level =>
      rw [hsettings]
      exact hfailed level

/-- A command line that is refused makes the run fail, unless it asks for an answer. -/
theorem failed_of_refusal {refusal : CommandLine.Refusal}
    (hrefusal : Settings.ofArguments world.inputs arguments = .error refusal)
    (hfailed : ∀ level, (Run.ofRefusal world level arguments refusal).Failed) :
    (Run.ofArguments world arguments).Failed := by
  unfold Run.ofArguments
  cases Level.ofSetting world.logLevel with
  | error name => exact .fault _ rfl
  | ok level =>
      rw [hrefusal]
      exact hfailed level

/-- Each of the hindrances makes a run fail. -/
theorem failed_of_hindrance (h : Hindrance world arguments) :
    (Run.ofArguments world arguments).Failed := by
  cases h with
  | logLevel name hname =>
      rw [Run.ofArguments, hname]
      exact .fault _ rfl
  | usage error husage => exact failed_of_refusal husage fun _ => .usage rfl
  | unnamedFormat verbosity hunnamed => exact failed_of_refusal hunnamed fun _ => .fault _ rfl
  | unreadable settings hsettings hunreadable =>
      obtain ⟨ending, hgather⟩ := gather_fails_iff.2 hunreadable
      exact failed_of_settings hsettings fun _ =>
        failed_of_prepare (prepare_error_of_gather hgather)
  | nothingToCheck settings hsettings hgather hvalidate =>
      exact failed_of_settings hsettings fun _ => failed_of_prepare
        (prepare_error_of_vet hgather (vet_eq_error_iff.2 (.inr ⟨hvalidate, rfl, rfl⟩)))
  | invalid settings releases problem hsettings hgather hvalidate hproblem =>
      have hparse : VersionString.parse (some settings.operands.versionString) =
          .error (.invalidVersionString (some settings.operands.versionString) problem) :=
        VersionString.parse_eq_error_iff.2 ⟨problem, hproblem, rfl⟩
      exact failed_of_settings hsettings fun _ => failed_of_prepare
        (prepare_error_of_vet hgather
          (vet_eq_error_iff.2 (.inl ⟨hvalidate, _, hparse, rfl, rfl⟩)))
  | unnamedDestination settings releases hsettings hprepare hwritten hdestination =>
      exact failed_of_settings hsettings fun _ => failed_of_finish hprepare
        (by rw [finish_of_unnamed hwritten hdestination])
  | unopened settings releases path error hsettings hprepare hwritten hdestination hcreate =>
      exact failed_of_settings hsettings fun _ => failed_of_finish hprepare
        (by rw [finish_of_unopened hwritten hdestination hcreate])
  | unwritten settings releases destination arrived error hsettings hprepare hwritten hdestination
      hopen hput =>
      exact failed_of_settings hsettings fun _ => failed_of_finish hprepare
        (by rw [finish_of_broken hwritten hdestination hopen hput])

/-- A preparation that fails has met a hindrance. -/
theorem hindrance_of_prepare
    (hsettings : Settings.ofArguments world.inputs arguments = .ok settings)
    (h : prepare world settings = (events, .error ending)) : Hindrance world arguments := by
  rcases prepare_eq_error_iff.1 h with hgather | ⟨reading, vetting, releases, hgather, hvet, -⟩
  · exact .unreadable settings hsettings (gather_fails_iff.1 ⟨ending, by rw [hgather]⟩)
  · rcases vet_eq_error_iff.1 hvet with ⟨hvalidate, error, hparse, -, -⟩ | ⟨hvalidate, rfl, -⟩
    · obtain ⟨problem, hproblem, -⟩ := VersionString.parse_eq_error_iff.1 hparse
      exact .invalid settings releases problem hsettings (by rw [hgather]) hvalidate hproblem
    · exact .nothingToCheck settings hsettings (by rw [hgather]) hvalidate

/-- A run that fails at its end has met a hindrance. -/
theorem hindrance_of_finish
    (hsettings : Settings.ofArguments world.inputs arguments = .ok settings)
    (h : prepare world settings = (events, .ok releases))
    (hfailed : (Run.ofSettings world level arguments settings).Failed) :
    Hindrance world arguments := by
  have hprepare : (prepare world settings).2 = .ok releases := by rw [h]
  have hnot : ∀ finished, finish world settings (reportOn settings releases) =
      (finished, .exit (closingStatus (reportOn settings releases))) → False :=
    fun _ hfinish => not_failed_of_finish h (by rw [hfinish]) hfailed
  have hfinished := finished world settings (reportOn settings releases)
  generalize finish world settings (reportOn settings releases) = result at hfinished hnot
  cases hfinished with
  | nothing | whole => exact (hnot _ rfl).elim
  | unnamed hwritten hdestination =>
      exact .unnamedDestination settings releases hsettings hprepare hwritten hdestination
  | unopened path error hwritten hdestination hcreate =>
      exact .unopened settings releases path error hsettings hprepare hwritten hdestination hcreate
  | broken destination arrived error hwritten hdestination hopen hput =>
      exact .unwritten settings releases destination arrived error hsettings hprepare hwritten
        hdestination hopen hput

/-- A run that fails has met one of the hindrances. -/
theorem hindrance_of_failed (h : (Run.ofArguments world arguments).Failed) :
    Hindrance world arguments := by
  have hcourse := course world arguments
  generalize Run.ofArguments world arguments = run at h hcourse
  cases hcourse with
  | unset name hname => exact .logLevel name hname
  | refused level refusal hrefusal =>
      cases refusal with
      | usage error => exact .usage error hrefusal
      | unnamedFormat verbosity => exact .unnamedFormat verbosity hrefusal
      | help | version => exact absurd h (not_failed_of_answer _)
  | unprepared level settings events ending hsettings hprepare =>
      exact hindrance_of_prepare hsettings hprepare
  | prepared level settings events releases hsettings hprepare =>
      exact hindrance_of_finish hsettings hprepare h

/-- The runs that fail are those that meet one of the hindrances. -/
theorem failed_iff_hindrance :
    (Run.ofArguments world arguments).Failed ↔ Hindrance world arguments :=
  ⟨hindrance_of_failed, failed_of_hindrance⟩

end VersionMatch.Session
