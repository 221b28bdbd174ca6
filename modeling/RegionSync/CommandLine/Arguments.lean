import RegionSync.CommandLine.Command
import RegionSync.Environment

/-!
# Reading the arguments

Arguments are read from left to right.  A request for help or for the version
is answered as soon as it is read, unless something before it is wrong.
Names and options are spelled in full, an option is given at most once, and
nothing follows the options of a command.  The value of an option is not
empty, and behind a blank it does not look like an option.

An option that is not given takes its value from a variable of the
environment, which then must not be empty.
-/

namespace RegionSync.CommandLine

/-- The name of the group of commands on a document. -/
def groupName : Text :=
  "claude".toList

def helpName : Text :=
  "help".toList

/-- The argument behind which there are only operands. -/
def separator : Text :=
  "--".toList

/-- Whether an argument asks for help in short. -/
def asksBriefly (argument : Text) : Bool :=
  (Text.after? "-h".toList argument).isSome

/-- Whether an argument asks for help at length. -/
def asksFully (argument : Text) : Bool :=
  argument == "--help".toList

def looksLikeOption (argument : Text) : Bool :=
  argument.head? == some '-' && argument != ['-']

/-- What follows the help command of the program. -/
def readProgramHelp : List Text → Option HelpTopic
  | [] => some .program
  | [name] =>
      if name = groupName then some .group
      else if name = helpName then some .programHelp
      else none
  | [group, name] =>
      if group ≠ groupName then none
      else if name = helpName then some .groupHelp
      else (CommandName.ofText? name).map (.command · .full)
  | _ => none

/-- What follows the help command among the commands on a document. -/
def readGroupHelp (names : List Text) : Option HelpTopic :=
  readProgramHelp (groupName :: names)

/-- The options of a command. -/
inductive OptionName where
  | file
  | registry
  deriving DecidableEq, Repr

namespace OptionName

/-- The option as it is typed. -/
def text : OptionName → Text
  | file => "--file".toList
  | registry => "--registry".toList

/-- The variable that the option's value is taken from where it is not
given. -/
def variableName : OptionName → String
  | file => "DEVKIT_CLAUDE_MD"
  | registry => "DEVKIT_REGISTRY"

/-- The option that is typed so. -/
def ofText? (argument : Text) : Option OptionName :=
  [file, registry].find? (fun option => option.text == argument)

end OptionName

/-- The options that have been read. -/
structure Options where
  file : Option Path
  registry : Option Path
  isFlagged : Bool
  deriving DecidableEq, Repr

namespace Options

/-- The options of a command without any. -/
def empty : Options :=
  ⟨none, none, false⟩

/-- The options with a value for one that has none yet. -/
def set?
    (options : Options)
    (name : OptionName)
    (value : Text) :
    Option Options :=
  if value.isEmpty then
    none
  else
    match name with
    | .file =>
        if options.file.isSome then none
        else some { options with file := some value }
    | .registry =>
        if options.registry.isSome then none
        else some { options with registry := some value }

/-- The options with the flag, which they do not have yet. -/
def setFlag? (options : Options) : Option Options :=
  if options.isFlagged then none else some { options with isFlagged := true }

def request (options : Options) (name : CommandName) : Request :=
  ⟨name.command options.isFlagged, options.file, options.registry⟩

end Options

/-- An argument up to its first equals sign, and the value behind it. -/
def splitValue (argument : Text) : Text × Option Text :=
  let isNamePart (char : Char) : Bool := char != '='
  (argument.takeWhile isNamePart,
    (argument.dropWhile isNamePart).tail?)

/-- Reads the arguments behind the name of a command. -/
def readOptions (name : CommandName) (options : Options) :
    List Text → Option Invocation
  | [] => some (.run (options.request name))
  | argument :: rest =>
      let (spelled, attached) := splitValue argument
      if argument = separator then
        if rest.isEmpty then some (.run (options.request name)) else none
      else if asksFully argument then
        some (.help (.command name .full))
      else if asksBriefly argument then
        some (.help (.command name .summary))
      else if some argument = name.flag? then do
        let flagged ← options.setFlag?
        readOptions name flagged rest
      else do
        let option ← OptionName.ofText? spelled
        match attached with
        | some value =>
            let changed ← options.set? option value
            readOptions name changed rest
        | none =>
            match rest with
            | [] => none
            | value :: others =>
                if looksLikeOption value then
                  none
                else
                  let changed ← options.set? option value
                  readOptions name changed others

/-- Reads the arguments behind the name of the group. -/
def readGroup : List Text → Option Invocation
  | [] => none
  | argument :: rest =>
      if asksFully argument || asksBriefly argument then
        some (.help .group)
      else if argument = helpName then
        (readGroupHelp rest).map .help
      else
        (CommandName.ofText? argument).bind fun name =>
          readOptions name .empty rest

/-- Reads the arguments of the program; there is nothing to read where they
are wrong. -/
def readArguments : List Text → Option Invocation
  | [] => none
  | argument :: rest =>
      if asksFully argument || asksBriefly argument then
        some (.help .program)
      else if argument = "--version".toList
          || (Text.after? "-V".toList argument).isSome then
        some .version
      else if argument = helpName then
        (readProgramHelp rest).map .help
      else if argument = groupName then
        readGroup rest
      else
        none

/-- The value of an option, given or from its variable. -/
def settleOption
    (environment : Environment)
    (name : OptionName) :
    Option Text → Option (Option Text)
  | some value => some (some value)
  | none =>
      match environment.get? name.variableName with
      | none => some none
      | some value => if value.isEmpty then none else some (some value)

/-- The file that a document is in unless another is named. -/
def defaultFile : Path :=
  "CLAUDE.md".toList

/-- A command with the paths that it works on. -/
structure Task where
  command : Command
  file : Path
  /-- The registry file that was asked for. -/
  registry : Option Path
  deriving DecidableEq, Repr

/-- The task of a request; there is none where a variable is empty. -/
def Request.settle?
    (request : Request)
    (environment : Environment) :
    Option Task := do
  let file ← settleOption environment .file request.file
  let registry ← settleOption environment .registry request.registry
  return ⟨request.command, file.getD defaultFile, registry⟩

end RegionSync.CommandLine
