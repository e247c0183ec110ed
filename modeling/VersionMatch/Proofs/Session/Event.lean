import VersionMatch.Session.Event

/-!
# What events leave behind

Most events of a run leave nothing behind on the standard output or in a file. What a run leaves
there is read off its other events. Some events show nothing at all outside of the log.
-/

namespace VersionMatch.Session

open CommandLine (Destination)

/-- Only opening a file for writing and writing leave something behind. -/
def Event.WritesNothing : Event → Prop
  | .create _ | .write .. => False
  | .read _ | .note _ | .say _ => True

/-- An event is silent if it shows nothing outside of the log. -/
def Event.Silent : Event → Prop
  | .read _ | .note _ => True
  | .say _ | .create _ | .write .. => False

theorem Event.Silent.writes_nothing {event : Event} (h : event.Silent) : event.WritesNothing := by
  cases event with
  | read | note => trivial
  | say | create | write => exact h.elim

/-- What opening a destination leaves behind. -/
def opening : Destination → List Event
  | .standardOutput => []
  | .file path => [.create path]

variable {events before after : List Event}

/-- Events that write nothing leave the standard output empty. -/
theorem on_standard_output_of_writes_nothing (h : ∀ event ∈ events, event.WritesNothing) :
    events.flatMap Event.onStandardOutput = [] := by
  rw [List.flatMap_eq_nil_iff]
  intro event hevent
  cases event with
  | read | note | say => rfl
  | create | write => exact (h _ hevent).elim

/-- Events that write nothing create no file. -/
theorem created_of_writes_nothing (h : ∀ event ∈ events, event.WritesNothing) :
    events.filterMap Event.created? = [] := by
  rw [List.filterMap_eq_nil_iff]
  intro event hevent
  cases event with
  | read | note | say => rfl
  | create | write => exact (h _ hevent).elim

/-- Events that write nothing put nothing into a file. -/
theorem on_file_of_writes_nothing (h : ∀ event ∈ events, event.WritesNothing) (path : Text) :
    events.flatMap (Event.onFile path) = [] := by
  rw [List.flatMap_eq_nil_iff]
  intro event hevent
  cases event with
  | read | note | say => rfl
  | create | write => exact (h _ hevent).elim

namespace Run

variable {threshold : Log.Level} {ending : Ending}

/-- The standard output of a run shows what comes after events that write nothing. -/
theorem standard_output_of_append (h : ∀ event ∈ before, event.WritesNothing) :
    standardOutput ⟨threshold, before ++ after, ending⟩ =
      standardOutput ⟨threshold, after, ending⟩ := by
  simp [standardOutput, on_standard_output_of_writes_nothing h]

/-- The files of a run are those that it leaves after events that write nothing. -/
theorem files_of_append (h : ∀ event ∈ before, event.WritesNothing) :
    files ⟨threshold, before ++ after, ending⟩ = files ⟨threshold, after, ending⟩ := by
  simp [files, created_of_writes_nothing h, on_file_of_writes_nothing h]

theorem standard_output_of_writes_nothing (h : ∀ event ∈ events, event.WritesNothing) :
    standardOutput ⟨threshold, events, ending⟩ = [] :=
  on_standard_output_of_writes_nothing h

theorem files_of_writes_nothing (h : ∀ event ∈ events, event.WritesNothing) :
    files ⟨threshold, events, ending⟩ = [] := by
  rw [files, created_of_writes_nothing h]
  rfl

end Run

/-! ## Writing to a destination -/

/-- The events of opening a destination and writing a text to it. -/
def writing (destination : Destination) (text : Text) : List Event :=
  opening destination ++ [.write destination text]

/-- All events of opening a destination and writing to it leave something behind. -/
theorem not_writes_nothing_of_writing (destination : Destination) (text : Text) :
    ∀ event ∈ writing destination text, ¬ event.WritesNothing := by
  cases destination with
  | standardOutput => exact List.forall_mem_singleton.2 id
  | file path => exact List.forall_mem_cons.2 ⟨id, List.forall_mem_singleton.2 id⟩

/-- What the standard output shows of a text that arrives at a destination. -/
def shownOf : Destination → Text → Text
  | .standardOutput, text => text
  | .file _, _ => []

/-- What files hold of a text that arrives at a destination. -/
def filedOf : Destination → Text → List (Text × Text)
  | .standardOutput, _ => []
  | .file path, text => [(path, text)]

namespace Run

variable {threshold : Log.Level} {ending : Ending}

/-- If a run writes in the end only, its standard output shows just this text. -/
theorem standard_output_of_writing (h : ∀ event ∈ before, event.WritesNothing)
    (destination : Destination) (text : Text) :
    standardOutput ⟨threshold, before ++ writing destination text, ending⟩ =
      shownOf destination text := by
  rw [standard_output_of_append h]
  cases destination with
  | standardOutput => exact List.append_nil text
  | file path => rfl

/-- If a run writes in the end only, its files hold just this text. -/
theorem files_of_writing (h : ∀ event ∈ before, event.WritesNothing) (destination : Destination)
    (text : Text) :
    files ⟨threshold, before ++ writing destination text, ending⟩ = filedOf destination text := by
  rw [files_of_append h]
  cases destination with
  | standardOutput => rfl
  | file path => simp [files, writing, opening, Event.created?, Event.onFile, filedOf]

end Run

end VersionMatch.Session
