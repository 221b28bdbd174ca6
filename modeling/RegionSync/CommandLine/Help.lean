import RegionSync.CommandLine.Arguments
import RegionSync.Text.Line

/-!
# Help texts

A help text says what something is for, how it is called, and what it can be
called with.  Entries stand in two columns; the text about a command can also
be given in full, with a paragraph for each option.

Options that can be set by a variable show its name and its present value.
-/

namespace RegionSync.CommandLine

/-- A line of text. -/
abbrev Row := Text

/-- Rows of two columns, the second as far to the right as it has to be. -/
def twoColumns (rows : List (Text × Text)) : List Row :=
  let width := (rows.map fun (left, _) => left.length).foldl max 0
  rows.map fun (left, right) =>
    "  ".toList ++ left
      ++ List.replicate (width - left.length) ' ' ++ "  ".toList ++ right

/-- An option as a help text shows it. -/
structure OptionEntry where
  /-- How the option is called. -/
  call : Text
  /-- What it is for. -/
  summary : Text
  /-- Where its value comes from otherwise. -/
  sources : List Text

namespace OptionEntry

def source (kind value : Text) : Text :=
  '[' :: kind ++ ": ".toList ++ value ++ [']']

/-- The source of a value that is taken from a variable. -/
def ofVariable (environment : Environment) (option : OptionName) : Text :=
  let name := option.variableName
  source "env".toList
    (name.toList ++ '=' :: (environment.get? name).getD [])

/-- The option for the document. -/
def file (environment : Environment) : OptionEntry :=
  { call := "    --file <FILE>".toList
    summary := "Path to the CLAUDE.md file".toList
    sources :=
      [ofVariable environment .file, source "default".toList defaultFile] }

def registry (environment : Environment) : OptionEntry :=
  { call := "    --registry <REGISTRY>".toList
    summary :=
      ("Registry file to use instead of the user-level or "
        ++ "builtin registry").toList
    sources := [ofVariable environment .registry] }

def flag? : CommandName → Option OptionEntry
  | .init => some
      ⟨"    --force".toList,
        "Overwrite an existing file, discarding its content".toList, []⟩
  | .list => none
  | _ => some
      ⟨"    --json".toList, "Print the report as JSON".toList, []⟩

def help (hint : String) : OptionEntry :=
  ⟨"-h, --help".toList, ("Print help" ++ hint).toList, []⟩

def inColumns (entry : OptionEntry) : Text × Text :=
  (entry.call,
    entry.summary ++ entry.sources.flatMap fun source => ' ' :: source)

/-- The option in a paragraph. -/
def inFull (entry : OptionEntry) : List Row :=
  let indented (row : Text) : Row := List.replicate 10 ' ' ++ row
  let sources :=
    if entry.sources.isEmpty then [] else [] :: entry.sources
  ("  ".toList ++ entry.call) :: (entry.summary :: sources).map indented

end OptionEntry

namespace CommandName

def summary : CommandName → Text
  | init =>
      "Write a fresh CLAUDE.md containing every registry section".toList
  | update =>
      "Rewrite drifted registry sections, preserving everything else".toList
  | check =>
      ("Report registry sections that are drifted or missing, "
        ++ "without writing").toList
  | list => "Show the sections of the template registry in use".toList

/-- Whether more can be said about a command than fits in two columns. -/
def hasFullHelp : CommandName → Bool
  | check => true
  | _ => false

end CommandName

namespace HelpTopic

def programSummary : Text :=
  "Devkit keeps shared developer tooling in sync across projects".toList

/-- What the group of commands is for. -/
def groupSummary : Text :=
  "Manage the AI-assistant instructions in CLAUDE.md".toList

/-- What the help command is for. -/
def helpSummary : Text :=
  "Print this message or the help of the given subcommand(s)".toList

/-- The program's own options. -/
def programOptions : List (Text × Text) :=
  [("-h, --help".toList, "Print help".toList),
    ("-V, --version".toList, "Print version".toList)]

/-- The rows about something that has commands. -/
def commandsRows
    (summary usage : Text)
    (commands options : List (Text × Text)) :
    List Row :=
  [summary, [], "Usage: ".toList ++ usage, [], "Commands:".toList]
    ++ twoColumns (commands ++ [(helpName, helpSummary)])
    ++ [[], "Options:".toList]
    ++ twoColumns options

/-- The rows about a help command. -/
def helpRows (usage : String) : List Row :=
  [helpSummary, [], ("Usage: " ++ usage ++ " [COMMAND]...").toList, [],
    "Arguments:".toList]
    ++ twoColumns
      [("[COMMAND]...".toList, "Print help for the subcommand(s)".toList)]

/-- How a command is called. -/
def commandUsage (name : CommandName) : Row :=
  "Usage: devkit claude ".toList ++ name.text ++ " [OPTIONS]".toList

/-- The options of a command, with a hint on where to read more. -/
def commandOptions
    (environment : Environment)
    (name : CommandName)
    (hint : String) :
    List OptionEntry :=
  [.file environment, .registry environment]
    ++ (OptionEntry.flag? name).toList ++ [.help hint]

/-- The rows about a command in two columns. -/
def briefRows (environment : Environment) (name : CommandName) : List Row :=
  let hint := if name.hasFullHelp then " (see more with '--help')" else ""
  [name.summary, [], commandUsage name, [], "Options:".toList]
    ++ twoColumns
      ((commandOptions environment name hint).map OptionEntry.inColumns)

/-- The rows about checking, in full. -/
def fullRows (environment : Environment) (name : CommandName) : List Row :=
  let options :=
    commandOptions environment name " (see a summary with '-h')"
  [name.summary ++ ['.'], [],
    "Exits with status 1 when updates are pending.".toList, [],
    commandUsage name, [], "Options:".toList]
    ++ List.intercalate [[]] (options.map OptionEntry.inFull)

def rows (environment : Environment) : HelpTopic → List Row
  | program =>
      commandsRows programSummary "devkit <COMMAND>".toList
        [(groupName, groupSummary)] programOptions
  | group =>
      commandsRows groupSummary "devkit claude <COMMAND>".toList
        (CommandName.all.map fun name => (name.text, name.summary))
        (programOptions.take 1)
  | command name detail =>
      if name.hasFullHelp && detail == .full then
        fullRows environment name
      else
        briefRows environment name
  | programHelp => helpRows "devkit help"
  | groupHelp => helpRows "devkit claude help"

def text (topic : HelpTopic) (environment : Environment) : Text :=
  LineEnding.lf.terminate (topic.rows environment)

end HelpTopic

end RegionSync.CommandLine
