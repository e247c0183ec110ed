import VersionMatch.Expression.Parse
import VersionMatch.Session.World

/-!
# Checking releases

A check reads all releases, looks at the version-string, checks each release, selects one if asked
to, and only then writes the report. The stages are functions of their own. Each gives its events
and either what the next stage needs or how the run ends.
-/

namespace VersionMatch.Session

open CommandLine (Destination Settings Source UsageError)
open Log (Note)

/-- Events, followed by the value for the next stage or by the ending of the run. -/
abbrev Stage (α : Type) := List Event × Except Ending α

/-- Opens a source for the run, given whether the standard input is still open. It can be read to
its end only once, and a source must be named. -/
def available (inputOpen : Bool) : Option Source → Except Fault Source
  | none => .error (.missingValue .releaseFile)
  | some source =>
    if source.isStandardInput && !inputOpen then .error .inputClosed else .ok source

/-- Reads the sources in order. -/
def readSources (inputOpen : Bool) : List (Option Source) → Stage (List Text)
  | [] => ([], .ok [])
  | entry :: entries =>
    match available inputOpen entry with
    | .error fault => ([], .error (.fault fault))
    | .ok source =>
      match source.releases with
      | .error complaint => ([], .error (.fault (.undecodable complaint)))
      | .ok releases =>
        let (events, later) := readSources (inputOpen && !source.isStandardInput) entries
        (.read source :: events, later.map (releases ++ ·))

/-- All releases to check: those on the command line, then those of the sources. -/
def gather (settings : Settings) : Stage (List Text) :=
  let (events, read) := readSources true settings.choices.sources
  (events, read.map (settings.operands.releases ++ ·))

/-- A usage error: the usage and a line about the error on the standard error, and the status 2. -/
def usageError (world : World) (error : UsageError) : List Event × Ending :=
  ([.say world.wording.usage, .say ("jsr56: error: ".toList ++ error.message)], .exit 2)

/-- Checks the version-string, or warns that nobody does. Without a check there must be a
release. -/
def vet (world : World) (settings : Settings) (releases : List Text) : Stage Unit :=
  let versionString := settings.operands.versionString
  if settings.choices.validate then
    match VersionString.parse (some versionString) with
    | .ok parsed => ([.note (.parsed versionString parsed.elements.length)], .ok ())
    | .error error => ([.note (.invalid error)], .error (.exit 1))
  else if releases.isEmpty then
    let (events, ending) := usageError world .nothingToCheck
    (events, .error ending)
  else ([.note .unchecked], .ok ())

/-- The notes on the elements that turned a release down. -/
def rejectionNotes (versionString release : Text) : List Note :=
  (Requirement.find release versionString).rejections.map (Note.rejected release)

/-- The notes on the check of a release. -/
def checkNotes (versionString release : Text) : List Note :=
  rejectionNotes versionString release ++
    [.checked release (Requirement.matchingElement release versionString)]

/-- The notes on the selection, which looks at every release once more. -/
def selectionNotes (versionString : Text) (releases : List Text) : List Note :=
  releases.flatMap (rejectionNotes versionString) ++
    [.selected (Selection.select? releases versionString) versionString]

/-- The notes on the checks of all releases and on the selection. -/
def notes (versionString : Text) (releases : List Text) (select : Bool) : List Note :=
  releases.flatMap (checkNotes versionString) ++
    if select then selectionNotes versionString releases else []

/-- Opens a destination. A file is created by this, or it loses its old contents. -/
def openDestination (world : World) : Option Destination → Stage Destination
  | none => ([], .error (.fault (.missingValue .output)))
  | some .standardOutput => ([], .ok .standardOutput)
  | some (.file path) =>
    match world.create path with
    | .ok () => ([.create path], .ok (.file path))
    | .error error => ([], .error (.fault (.unwritable path error)))

/-- Writes a text to an open destination and ends the run, with a status if all of it arrives. -/
def writeText (world : World) (destination : Destination) (text : Text) (status : Nat) :
    List Event × Ending :=
  match world.put destination text with
  | .whole => ([.write destination text], .exit status)
  | .broken arrived error =>
    ([.write destination arrived], .fault (.unwritten destination error))

/-- Opens a destination, writes a text and a line feed to it and ends the run with a status. -/
def deliver (world : World) (destination : Option Destination) (text : Text) (status : Nat) :
    List Event × Ending :=
  match openDestination world destination with
  | (opening, .error ending) => (opening, ending)
  | (opening, .ok destination) =>
    let (events, ending) := writeText world destination (text ++ ['\n']) status
    (opening ++ events, ending)

/-- Sums up and writes a report. The status tells whether there is an acceptable release. Without
any release the version-string is confirmed, and only some formats write a report. -/
def conclude (world : World) (settings : Settings) (report : Report) : List Event × Ending :=
  let destination := settings.choices.destination
  let text := Report.render settings.format report
  if report.outcomes.isEmpty then
    let (events, ending) :=
      if settings.format.isManifest then deliver world destination text 0 else ([], .exit 0)
    (.say ("Valid version string: ".toList ++ report.versionString) :: events, ending)
  else
    let (events, ending) :=
      deliver world destination text (if report.acceptableCount = 0 then 1 else 0)
    (.say report.summary :: events, ending)

/-- Checks releases against a version-string. -/
def check (world : World) (settings : Settings) : List Event × Ending :=
  match gather settings with
  | (reading, .error ending) => (reading, ending)
  | (reading, .ok releases) =>
    match vet world settings releases with
    | (vetting, .error ending) => (reading ++ vetting, ending)
    | (vetting, .ok ()) =>
      let versionString := settings.operands.versionString
      let select := settings.choices.select
      let (events, ending) :=
        conclude world settings (Report.ofReleases versionString releases select)
      (reading ++ vetting ++ (notes versionString releases select).map .note ++ events, ending)

end VersionMatch.Session
