import Mathlib.Data.List.Forall2
import Mathlib.Data.List.TakeWhile
import VersionMatch.Proofs.Session.Event
import VersionMatch.Session.Check

/-!
# The stages of a check

Each stage of a check is described by one statement: when it succeeds, what it then hands on, and
which events it has by then.
-/

namespace VersionMatch.Session

open CommandLine (Destination Settings Source)
open Log (Level Note)

/-! ## Reading the releases -/

/-- A source is available if it is named and, being the standard input, still open. -/
theorem available_eq_ok_iff {inputOpen : Bool} {entry : Option Source} {source : Source} :
    available inputOpen entry = .ok source ↔
      entry = some source ∧ (source.isStandardInput = true → inputOpen = true) := by
  cases entry with
  | none => simp [available]
  | some named =>
      cases hclosed : named.isStandardInput && !inputOpen with
      | true =>
          simp only [available, hclosed, if_true, reduceCtorEq, Option.some.injEq, false_iff]
          rintro ⟨rfl, hopen⟩
          simp [hopen (Bool.and_eq_true _ _ ▸ hclosed).1] at hclosed
      | false =>
          simp only [available, hclosed, Bool.false_eq_true, if_false, Except.ok.injEq,
            Option.some.injEq]
          constructor
          · rintro rfl
            exact ⟨rfl, by simpa using hclosed⟩
          · exact And.left

/-- Reading a source and then others gives the releases of the one before those of the others. -/
theorem read_sources_cons_eq_ok_iff {inputOpen : Bool} {entry : Option Source}
    {entries : List (Option Source)} {events : List Event} {releases : List Text} :
    readSources inputOpen (entry :: entries) = (events, .ok releases) ↔
      ∃ source list later others, available inputOpen entry = .ok source ∧
        source.releases = .ok list ∧
        readSources (inputOpen && !source.isStandardInput) entries = (later, .ok others) ∧
        events = .read source :: later ∧ releases = list ++ others := by
  rw [readSources]
  cases available inputOpen entry with
  | error fault => simp
  | ok source =>
      cases hlist : source.releases with
      | error complaint => simp [hlist]
      | ok list =>
          cases hothers : readSources (inputOpen && !source.isStandardInput) entries with
          | mk later result =>
              cases result with
              | error ending => simp [hlist, hothers, Except.map]
              | ok others =>
                  simp only [hlist, hothers, Except.map, Prod.mk.injEq, Except.ok.injEq]
                  constructor
                  · rintro ⟨rfl, rfl⟩
                    exact ⟨source, list, later, others, rfl, hlist, ⟨hothers, rfl, rfl⟩⟩
                  · rintro ⟨_, _, _, _, rfl, hsame, ⟨hlater, rfl, rfl⟩⟩
                    rw [hlist] at hsame
                    rw [hothers] at hlater
                    cases hsame
                    cases hlater
                    exact ⟨rfl, rfl⟩

/-- Sources can be read one after the other if the standard input, as long as it is open, is one of
them at most once. -/
def Readable (inputOpen : Bool) (sources : List Source) : Prop :=
  sources.countP Source.isStandardInput ≤ inputOpen.toNat

theorem readable_cons_iff {inputOpen : Bool} {source : Source} {sources : List Source} :
    Readable inputOpen (source :: sources) ↔
      (source.isStandardInput = true → inputOpen = true) ∧
        Readable (inputOpen && !source.isStandardInput) sources := by
  unfold Readable
  rw [List.countP_cons]
  cases source.isStandardInput <;> cases inputOpen <;> simp

/-- `Listed sources lists` says that all sources hold texts, and which releases each of them
lists. -/
abbrev Listed : List Source → List (List Text) → Prop :=
  List.Forall₂ fun source list => source.releases = .ok list

/-- Reading succeeds if all sources are named, hold texts and can be read one after the other, and
it gives their releases in order. -/
theorem read_sources_eq_ok_iff {inputOpen : Bool} {entries : List (Option Source)}
    {events : List Event} {releases : List Text} :
    readSources inputOpen entries = (events, .ok releases) ↔
      ∃ (sources : List Source) (lists : List (List Text)), entries = sources.map some ∧
        Readable inputOpen sources ∧ Listed sources lists ∧ events = sources.map .read ∧
        releases = lists.flatten := by
  induction entries generalizing inputOpen events releases with
  | nil =>
      constructor
      · intro h
        cases h
        exact ⟨[], [], rfl, Nat.zero_le _, .nil, rfl, rfl⟩
      · intro ⟨sources, lists, hentries, _, hlisted, hevents, hreleases⟩
        obtain rfl := List.map_eq_nil_iff.1 hentries.symm
        cases hlisted
        rw [hevents, hreleases]
        rfl
  | cons entry entries ih =>
      rw [read_sources_cons_eq_ok_iff]
      constructor
      · intro ⟨source, list, later, others, havailable, hlist, hothers, hevents, hreleases⟩
        obtain ⟨rfl, hopen⟩ := available_eq_ok_iff.1 havailable
        obtain ⟨sources, lists, rfl, hreadable, hlisted, rfl, rfl⟩ := ih.1 hothers
        exact ⟨source :: sources, list :: lists, rfl, readable_cons_iff.2 ⟨hopen, hreadable⟩,
          .cons hlist hlisted, hevents, hreleases⟩
      · intro ⟨sources, lists, hentries, hreadable, hlisted, hevents, hreleases⟩
        obtain ⟨source, sources, rfl, rfl, rfl⟩ := List.map_eq_cons_iff.1 hentries.symm
        obtain ⟨hopen, hreadable⟩ := readable_cons_iff.1 hreadable
        cases hlisted with
        | cons hlist hlisted =>
            exact ⟨source, _, _, _, available_eq_ok_iff.2 ⟨rfl, hopen⟩, hlist,
              ih.2 ⟨sources, _, rfl, hreadable, hlisted, rfl, rfl⟩, hevents, hreleases⟩

/-- All releases are those on the command line and behind them those of the sources. -/
theorem gather_eq_ok_iff {settings : Settings} {events : List Event} {releases : List Text} :
    gather settings = (events, .ok releases) ↔
      ∃ (sources : List Source) (lists : List (List Text)),
        settings.choices.sources = sources.map some ∧ Readable true sources ∧
        Listed sources lists ∧ events = sources.map .read ∧
        releases = settings.operands.releases ++ lists.flatten := by
  have hgather : gather settings = (events, .ok releases) ↔
      ∃ others, readSources true settings.choices.sources = (events, .ok others) ∧
        releases = settings.operands.releases ++ others := by
    rw [gather]
    cases readSources true settings.choices.sources with
    | mk reading result =>
        cases result with
        | error ending => simp [Except.map]
        | ok others => simp [Except.map, eq_comm]
  simp only [hgather, read_sources_eq_ok_iff]
  constructor
  · rintro ⟨others, ⟨sources, lists, hsources, hreadable, hlisted, hevents, rfl⟩, hreleases⟩
    exact ⟨sources, lists, hsources, hreadable, hlisted, hevents, hreleases⟩
  · intro ⟨sources, lists, hsources, hreadable, hlisted, hevents, hreleases⟩
    exact ⟨_, ⟨sources, lists, hsources, hreadable, hlisted, hevents, rfl⟩, hreleases⟩

/-! ## Vetting the version-string -/

/-- A version-string passes if it is parsed, or if nobody checks it and there is a release. Either
way this leaves one note. -/
theorem vet_eq_ok_iff {world : World} {settings : Settings} {releases : List Text}
    {events : List Event} :
    vet world settings releases = (events, .ok ()) ↔
      (settings.choices.validate = true ∧
        ∃ parsed, VersionString.parse (some settings.operands.versionString) = .ok parsed ∧
          events = [.note (.parsed settings.operands.versionString parsed.elements.length)]) ∨
      settings.choices.validate = false ∧ releases ≠ [] ∧ events = [.note .unchecked] := by
  rw [vet]
  cases settings.choices.validate with
  | true =>
      cases VersionString.parse (some settings.operands.versionString) with
      | error error => simp
      | ok parsed => simp [eq_comm]
  | false =>
      cases releases with
      | nil => simp [usageError]
      | cons release releases => simp [eq_comm]

/-! ## The report -/

/-- A destination can be opened if it is the standard output or the world opens its path. -/
inductive CanOpen (world : World) : Destination → Prop where
  | standardOutput : CanOpen world .standardOutput
  | file (path) : world.create path = .ok () → CanOpen world (.file path)

/-- A text of characters that can be encoded arrives as a whole where only its encoding can
fail. -/
theorem put_of_holds {encoding : Encoding} {text : Text}
    (h : ∀ c ∈ text, encoding.holds c = true) : encoding.put text = .whole := by
  have hcomplaint : encoding.complaint? text = none := by
    rw [Encoding.complaint?, List.takeWhile_eq_self_iff.2 h, List.drop_length]
    rfl
  rw [Encoding.put, hcomplaint]

theorem open_destination_of_can_open {world : World} {destination : Destination}
    (h : CanOpen world destination) :
    openDestination world (some destination) = (opening destination, .ok destination) := by
  cases h with
  | standardOutput => rfl
  | file path hcreate => simp [openDestination, hcreate, opening]

/-- A text for a destination that can be opened is written to it, as far as this goes. -/
theorem deliver_of_can_open {world : World} {destination : Destination}
    (h : CanOpen world destination) (text : Text) (status : Nat) :
    deliver world (some destination) text status =
      (opening destination ++ (writeText world destination (text ++ ['\n']) status).1,
        (writeText world destination (text ++ ['\n']) status).2) := by
  rw [deliver, open_destination_of_can_open h]

end VersionMatch.Session
