import RegionSync.CommandLine.Json
import RegionSync.CommandLine.Style
import RegionSync.ManagedFile

/-!
# Reports

What the commands print when they succeed: a line with the result, and then a
line for each section that there is something to say about.  The reports of
`update` and `check` can also be had in JSON.
-/

namespace RegionSync.CommandLine

/-- A number of sections in words. -/
def countSections (count : Nat) : Text :=
  Text.ofNat count
    ++ (if count = 1 then " section".toList else " sections".toList)

def goodMark : Text :=
  "\u2713 ".toList

/-- The mark of a result that asks for something. -/
def badMark : Text :=
  "\u2717 ".toList

/-- A line about a section: a styled word, blanks, and the name. -/
def sectionRow
    (style : Style)
    (word gap : String)
    (name : Text) :
    Text :=
  "  ".toList ++ style.apply word.toList ++ gap.toList ++ name

/-- The line about a document without anything to do. -/
def currentRow (path : Path) : Text :=
  goodMark ++ path ++ " is up to date".toList

/-- What is printed about a fresh document. -/
def initRows (path : Path) (count : Nat) : List Text :=
  [ goodMark ++ "Wrote ".toList ++ countSections count ++ " to ".toList
      ++ path,
    [],
    ("Add project-specific instructions after the sections; "
      ++ "`devkit claude update`").toList,
    ("keeps the sections current without touching anything "
      ++ "outside the markers.").toList ]

def updateJson (report : UpdateReport) : Text :=
  FieldValue.printObject
    [("updated", .texts report.updated),
      ("preserved", .texts report.preserved),
      ("duplicates", .texts report.duplicates)]

/-- The line with the result of an update. -/
def updateHeadRow (report : UpdateReport) (path : Path) : Text :=
  if report.isChanged then
    goodMark ++ "Updated ".toList ++ countSections report.updated.length
      ++ " in ".toList ++ path
  else
    currentRow path

/-- The line about a name that several regions have. -/
def duplicateRow (name : Text) : Text :=
  sectionRow .yellow "duplicate" "  " name
    ++ ' ' :: Style.dim.apply
      "(only the first occurrence is managed)".toList

def updateRows (report : UpdateReport) (path : Path) : List Text :=
  updateHeadRow report path
    :: report.updated.map (sectionRow .green "updated" "    ")
    ++ report.preserved.map (sectionRow .dim "preserved" "  ")
    ++ report.duplicates.map duplicateRow

def checkJson (report : CheckReport) : Text :=
  FieldValue.printObject
    [("hasUpdates", .flag report.hasUpdates),
      ("sections", .texts report.sections),
      ("missing", .texts report.missing)]

/-- The line with the number of sections that need something. -/
def checkHeadRow (report : CheckReport) (path : Path) : Text :=
  let count := report.sections.length
  badMark ++ countSections count ++ " in ".toList ++ path
    ++ (if count = 1 then " needs updates".toList
      else " need updates".toList)

/-- The line about a section that needs something. -/
def pendingRow (report : CheckReport) (name : Text) : Text :=
  if report.missing.contains name then sectionRow .red "missing" "  " name
  else sectionRow .yellow "drifted" "  " name

/-- What to do about drifted sections. -/
def driftAdvice : Text :=
  "Run `devkit claude update` to refresh drifted sections.".toList

/-- What to do about missing sections. -/
def missingAdvice : List Text :=
  [ ("Missing sections are not inserted by `update`; "
      ++ "add their markers by hand").toList,
    "or recreate the file with `devkit claude init --force`.".toList ]

def checkRows (report : CheckReport) (path : Path) : List Text :=
  if report.hasUpdates then
    checkHeadRow report path
      :: report.sections.map (pendingRow report)
      ++ [[], driftAdvice]
      ++ (if report.missing.isEmpty then [] else missingAdvice)
  else
    [currentRow path]

/-- A section in a list of sections: its name, its version, and the first
line of its body. -/
def listRow (given : Section) : Text :=
  Style.bold.apply given.name ++ ' '
    :: Style.cyan.apply ('v' :: given.version) ++ "  ".toList
    ++ Style.dim.apply (given.body.lines.headD [])

def listRows (registry : Registry) : List Text :=
  if registry.sections.isEmpty then ["The registry has no sections.".toList]
  else registry.sections.map listRow

end RegionSync.CommandLine
