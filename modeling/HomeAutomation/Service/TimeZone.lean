/-
  HomeAutomation.Service.TimeZone

  Which texts name a time zone. The zones are files below one directory, and a name is the path of
  such a file.
-/
import HomeAutomation.Http.Url
import HomeAutomation.Service.TimeZoneTable

namespace HomeAutomation

/-- Why a text names no time zone. -/
inductive TimeZoneError
  /-- The text is no plain path below the directory, or the path of a file that is no zone. -/
  | malformed
  | unknown
  deriving DecidableEq, Repr

namespace TimeZone

/-- The parts of a path without steps; a step above the start of the path is kept. -/
def plainParts (parts : List String) : List String :=
  parts.foldl (fun kept part =>
    if part = "" || part = "." then kept
    else if part = ".." then
      match kept.getLast? with
      | none | some ".." => kept ++ [part]
      | some _ => kept.dropLast
    else kept ++ [part]) []

/-- Whether a text is a plain path below a directory: relative, without empty parts and steps. -/
def isPlainPath (name : String) : Bool :=
  let parts := name.splitOn "/"
  !name.startsWith "/" && !name.toList.contains '\x00' && plainParts parts == parts
    && parts.head? != some ".."

/-- The directories that hold all zones once more, without and with leap seconds. -/
def copies : List String := ["posix/", "right/"]

/-- The files that are no zones. -/
def otherFiles : List String :=
  ["iso3166.tab", "leap-seconds.list", "leapseconds", "tzdata.zi", "zone.tab", "zone1970.tab"]

/-- Whether a file of a path is a zone. -/
def isZone (name : String) : Bool :=
  names.contains name || ["localtime", "posixrules"].contains name
    || copies.any fun copy => names.any fun zone => copy ++ zone == name

/-- Looks a time zone up. -/
def find (name : String) : Except TimeZoneError Unit :=
  if !isPlainPath name || otherFiles.contains name then .error .malformed
  else if isZone name then .ok ()
  else .error .unknown

end TimeZone

end HomeAutomation
