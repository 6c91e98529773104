/-
  HomeAutomation.Replay.Files

  The files that a command line can name. A path is followed name by name, from the folder of the
  command line or from the root; empty names and single dots are passed over, and two dots lead to
  the folder above.
-/
import HomeAutomation.Table

namespace HomeAutomation.Replay

/-- Why a path leads to no file that can be read. -/
inductive FileFault
  | missing
  | isFolder
  /-- The path goes on below a file. -/
  | belowFile
  | nameTooLong
  /-- The path has a character that no name has. -/
  | badCharacter
  deriving DecidableEq, Repr

/-- What there is: files, by path, with their texts, and folders besides those of the files. -/
structure Files where
  texts : Table String
  folders : List String := []
  deriving Repr

/-- Where a path leads: the names from the folder of the command line on. The root is a name of its
    own, and so is every folder above. -/
abbrev Place := List String

namespace Files

/-- The folders of every system. -/
def systemFolders : List String :=
  ["/bin", "/dev", "/etc", "/home", "/lib", "/proc", "/root", "/sys", "/tmp", "/usr", "/var"]

/-- Files with their texts, among what every system has. -/
def within (texts : Table String) : Files :=
  { texts := texts ++ [("/dev/null", "")], folders := systemFolders }

/-- The names of a path. -/
def namesOf (path : String) : List String :=
  (if path.startsWith "/" then ["/"] else [])
    ++ (path.splitOn "/").filter fun name => name != "" && name != "."

/-- The text of a file. -/
def text? (files : Files) (place : Place) : Option String :=
  (files.texts.find? fun entry => namesOf entry.1 == place).map (·.2)

/-- Whether there is a folder: the one of the command line, one above it, the root, or one that is
    known or holds a file. -/
def isFolder (files : Files) (place : Place) : Bool :=
  place == ["/"] || place.all (· == "..")
    || (files.folders.any fun path => place.isPrefixOf (namesOf path))
    || files.texts.names.any fun path => place != namesOf path && place.isPrefixOf (namesOf path)

/-- The folder above a place. -/
def above (place : Place) : Place :=
  if place == ["/"] then place
  else if place.all (· == "..") then place ++ [".."]
  else place.dropLast

/-- How many bytes a name may have. -/
def nameLimit : Nat := 255

/-- How many bytes a path may have. -/
def pathLimit : Nat := 4095

/-- Follows names from a place. -/
def follow (files : Files) (place : Place) : List String → Except FileFault String
  | [] =>
    match files.text? place with
    | some text => .ok text
    | none => .error (if files.isFolder place then .isFolder else .missing)
  | name :: rest =>
    if name == "/" then files.follow ["/"] rest
    else if (files.text? place).isSome then .error .belowFile
    else if !files.isFolder place then .error .missing
    else if nameLimit < name.utf8ByteSize then .error .nameTooLong
    else files.follow (if name == ".." then above place else place ++ [name]) rest

/-- Reads the file that a path leads to. -/
def read (files : Files) (path : String) : Except FileFault String :=
  if path.toList.contains '\x00' then .error .badCharacter
  else if pathLimit < path.utf8ByteSize then .error .nameTooLong
  else files.follow [] (namesOf path)

end Files

end HomeAutomation.Replay
