import RegionSync.Text.Basic

/-!
# File errors

The ways in which an operation on files fails, worded as an operating system
words them.
-/

namespace RegionSync

/-- Why an operation on files fails. -/
inductive FileError where
  /-- Nothing is there. -/
  | notFound
  /-- A directory is there. -/
  | isDirectory
  /-- Something other than a directory is there. -/
  | notDirectory
  /-- The content is not a text. -/
  | invalidData
  /-- The path cannot be passed on. -/
  | invalidInput
  /-- A name or a path is too long. -/
  | invalidFilename
  /-- Too many symbolic links follow each other. -/
  | filesystemLoop
  /-- A directory in use would be replaced. -/
  | resourceBusy
  deriving DecidableEq, Repr

/-- The error in words. -/
def FileError.message : FileError → Text
  | notFound => "No such file or directory (os error 2)".toList
  | isDirectory => "Is a directory (os error 21)".toList
  | notDirectory => "Not a directory (os error 20)".toList
  | invalidData => "stream did not contain valid UTF-8".toList
  | invalidInput => "file name contained an unexpected NUL byte".toList
  | invalidFilename => "File name too long (os error 36)".toList
  | filesystemLoop =>
      "Too many levels of symbolic links (os error 40)".toList
  | resourceBusy => "Device or resource busy (os error 16)".toList

end RegionSync
