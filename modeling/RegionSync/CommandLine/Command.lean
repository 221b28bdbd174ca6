import RegionSync.FileSystem.Path

/-!
# Commands

What a user can ask for: one of four commands on a document and a registry, a
help text, or the version of the program.
-/

namespace RegionSync.CommandLine

/-- A command on a document and a registry. -/
inductive Command where
  /-- Write a fresh document, over what is there if forced. -/
  | init (force : Bool)
  /-- Merge the registry into the document, with a report in JSON if asked. -/
  | update (json : Bool)
  /-- Report what the document lacks, in JSON if asked. -/
  | check (json : Bool)
  /-- Show the registry. -/
  | list
  deriving DecidableEq, Repr

inductive CommandName where
  | init
  | update
  | check
  | list
  deriving DecidableEq, Repr

namespace CommandName

/-- All commands, in the order of their presentation. -/
def all : List CommandName :=
  [init, update, check, list]

/-- The name as it is typed. -/
def text : CommandName → Text
  | init => "init".toList
  | update => "update".toList
  | check => "check".toList
  | list => "list".toList

def ofText? (name : Text) : Option CommandName :=
  all.find? (fun command => command.text == name)

def flag? : CommandName → Option Text
  | init => some "--force".toList
  | update => some "--json".toList
  | check => some "--json".toList
  | list => none

def command (isFlagged : Bool) : CommandName → Command
  | init => .init isFlagged
  | update => .update isFlagged
  | check => .check isFlagged
  | list => .list

end CommandName

/-- How much a help text says. -/
inductive HelpDetail where
  | summary
  | full
  deriving DecidableEq, Repr

/-- What a help text is about. -/
inductive HelpTopic where
  /-- The program. -/
  | program
  /-- The commands on a document. -/
  | group
  | command (name : CommandName) (detail : HelpDetail)
  /-- The help command of the program. -/
  | programHelp
  /-- The help command among the commands on a document. -/
  | groupHelp
  deriving DecidableEq, Repr

/-- A command, and the options given with it. -/
structure Request where
  command : Command
  file : Option Path
  registry : Option Path
  deriving DecidableEq, Repr

/-- What a user asks for. -/
inductive Invocation where
  | help (topic : HelpTopic)
  | version
  | run (request : Request)
  deriving DecidableEq, Repr

end RegionSync.CommandLine
