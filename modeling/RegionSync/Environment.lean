import RegionSync.FileSystem.Path

/-!
# The environment

Variables tell a program where its user keeps configuration: in the directory
that `XDG_CONFIG_HOME` names, if its path is absolute, and otherwise in
`.config` in the home directory.
-/

namespace RegionSync

/-- The variables that a program is started with. -/
abbrev Environment := List (Text × Text)

namespace Environment

/-- The value of a variable. -/
def get? (environment : Environment) (name : String) : Option Text :=
  environment.lookup name.toList

/-- The value of a variable that is set to something. -/
def nonEmpty? (environment : Environment) (name : String) : Option Text :=
  (environment.get? name).filter (fun value => !value.isEmpty)

/-- The directory of the user's configuration. -/
def configDirectory? (environment : Environment) : Option Path :=
  let named := (environment.get? "XDG_CONFIG_HOME").filter Path.isAbsolute
  named <|> (environment.nonEmpty? "HOME").map fun home =>
    Path.append home ".config".toList

/-- The path of the user's own registry. -/
def userRegistryPath? (environment : Environment) : Option Path :=
  environment.configDirectory?.map fun directory =>
    Path.append directory "devkit/claude.yaml".toList

end Environment

end RegionSync
