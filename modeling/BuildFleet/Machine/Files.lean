/-!
# The machine of a worker

Builds run on a machine with the usual directories and a small set of commands, and
its operating system tells why it does not do what it is asked.
-/

namespace BuildFleet

/-- Why the operating system did not do what it was asked. -/
inductive SystemFault where
  | notFound
  | argumentsTooLong
  | permissionDenied
  | notDirectory
  | isDirectory
  /-- A name or a value holds the character that ends texts. -/
  | endOfText
  /-- A file is not UTF-8. -/
  | notText
deriving DecidableEq, Repr

namespace SystemFault

/-- What a fault is called. -/
def phrase : SystemFault → String
  | notFound => "No such file or directory"
  | argumentsTooLong => "Argument list too long"
  | permissionDenied => "Permission denied"
  | notDirectory => "Not a directory"
  | isDirectory => "Is a directory"
  | endOfText => "nul byte found in provided data"
  | notText => "stream did not contain valid UTF-8"

/-- The number of a fault, if it is one of the system itself. -/
def number? : SystemFault → Option Nat
  | notFound => some 2
  | argumentsTooLong => some 7
  | permissionDenied => some 13
  | notDirectory => some 20
  | isDirectory => some 21
  | endOfText | notText => none

def text (fault : SystemFault) : String :=
  match fault.number? with
  | some number => fault.phrase ++ " (os error " ++ toString number ++ ")"
  | none => fault.phrase

end SystemFault

end BuildFleet

/-! ## Directories and commands -/

namespace BuildFleet.Machine

/-- What a path leads to. -/
inductive Item where
  | directory
  /-- A command that can be run. -/
  | command (name : String)
  | file (content : List UInt8)
deriving DecidableEq

def directories : List (List String) := [
  [], ["bin"], ["dev"], ["etc"], ["home"], ["lib"], ["media"], ["mnt"], ["opt"], ["proc"],
  ["root"], ["run"], ["sbin"], ["srv"], ["sys"], ["tmp"], ["usr"], ["usr", "bin"],
  ["usr", "lib"], ["usr", "local"], ["usr", "local", "bin"], ["usr", "sbin"], ["usr", "share"],
  ["var"], ["var", "lib"], ["var", "log"], ["var", "tmp"]]

/-- The commands in the directories for commands. -/
def commands : List String := [
  "[", "cat", "echo", "env", "false", "grep", "head", "printenv", "printf", "pwd", "seq", "sh",
  "sleep", "sort", "tail", "test", "true", "wc"]

def files : List (List String) := [
  ["dev", "null"], ["etc", "group"], ["etc", "hostname"], ["etc", "hosts"], ["etc", "passwd"]]

/-- The names on a path from the root, without the steps that lead nowhere. -/
def resolveSteps : List String → List String → List String
  | reached, [] => reached.reverse
  | reached, step :: rest =>
    if step = "" ∨ step = "." then resolveSteps reached rest
    else if step = ".." then resolveSteps (reached.drop 1) rest
    else resolveSteps (step :: reached) rest

/-- The names on a path that starts in a directory. -/
def steps (directory path : String) : List String :=
  let start := if "/".toList.isPrefixOf path.toList then [] else directory.splitOn "/"
  resolveSteps [] (start ++ path.splitOn "/")

def pathText (steps : List String) : String := "/" ++ "/".intercalate steps

def itemAt? (steps : List String) : Option Item :=
  if directories.contains steps then some .directory
  else if files.contains steps then some (.file [])
  else match steps with
    | ["bin", name] | ["usr", "bin", name] =>
      if commands.contains name then some (.command name) else none
    | _ => none

/-- What a path leads to from a directory. -/
def item (directory path : String) : Except SystemFault Item :=
  let steps := steps directory path
  if path.isEmpty then .error .notFound
  else
    match itemAt? steps with
    | some .directory => .ok .directory
    | some found => if path.toList.getLast? = some '/' then .error .notDirectory else .ok found
    | none =>
      match itemAt? steps.dropLast with
      | some .directory | none => .error .notFound
      | some _ => .error .notDirectory

/-- The directory that a path leads to. -/
def changeDirectory (directory path : String) : Except SystemFault String :=
  match item directory path with
  | .ok .directory => .ok (pathText (steps directory path))
  | .ok _ => .error .notDirectory
  | .error fault => .error fault

/-- The text of a file. Commands hold none. -/
def textAt (path : String) : Except SystemFault String :=
  match item "/" path with
  | .ok .directory => .error .isDirectory
  | .ok (.command _) => .error .notText
  | .ok (.file bytes) =>
    match String.fromUTF8? ⟨bytes.toArray⟩ with
    | some text => .ok text
    | none => .error .notText
  | .error fault => .error fault

/-- The command that a name stands for. A name with a slash is a path; others are
looked for in the directories of a search path. -/
def findCommand (searchPath directory name : String) : Except SystemFault String :=
  let commandAt (path : String) : Except SystemFault String :=
    match item directory path with
    | .ok (.command name) => .ok name
    | .ok _ => .error .permissionDenied
    | .error fault => .error fault
  if name.isEmpty then .error .notFound
  else if name.contains '/' then commandAt name
  else
    match (searchPath.splitOn ":").findSome? fun place =>
        (commandAt ((if place.isEmpty then "." else place) ++ "/" ++ name)).toOption with
    | some name => .ok name
    | none => .error .notFound

end BuildFleet.Machine
