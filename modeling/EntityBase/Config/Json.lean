import EntityBase.Config
import EntityBase.Error
import EntityBase.Json

namespace EntityBase

/-!
# Configuration text

Settings are read from JSON: an object with any of the settings by name, or
an array that gives them in order and may stop early.  A setting that is not
given has its default.  Members of other names are passed over, a setting
given twice is an error, and so is anything after the object or the array.
-/

namespace Config

open Json

structure Given where
  maxCommitRetries : Option UInt32 := none
  logConflicts : Option Bool := none

/-- The settings, with defaults for those that were not read. -/
def Given.complete (given : Given) : Config :=
  let defaults : Config := {}
  { maxCommitRetries := given.maxCommitRetries.getD defaults.maxCommitRetries
    logConflicts := given.logConflicts.getD defaults.logConflicts }

/-- Read the number of retries, which is one 32-bit word. -/
def Given.readRetries? (given : Given) (text : List Char) : Option (Given × List Char) := do
  let (number, rest) ← natural? text
  if number < UInt32.size then
    return ({ given with maxCommitRetries := some (UInt32.ofNat number) }, rest)
  else none

def Given.readLogging? (given : Given) (text : List Char) : Option (Given × List Char) := do
  let (flag, rest) ← bool? text
  return ({ given with logConflicts := some flag }, rest)

/-- Read the value of a named setting, or pass over that of another member. -/
def Given.readMember? (given : Given) (key : List Piece) (text : List Char) :
    Option (Given × List Char) := do
  let name := String.ofList (← characters? key)
  if name = "max_commit_retries" then
    if given.maxCommitRetries.isSome then none else given.readRetries? text
  else if name = "log_conflicts" then
    if given.logConflicts.isSome then none else given.readLogging? text
  else
    return (given, ← skipValue? text.length text)

def Given.readElement? (given : Given) (text : List Char) : Option (Given × List Char) :=
  match given.maxCommitRetries, given.logConflicts with
  | none, _ => given.readRetries? text
  | some _, none => given.readLogging? text
  | some _, some _ => none

/-- Read settings from the front of a text. -/
def read? (text : List Char) : Option (Config × List Char) :=
  match trimStart text with
  | '\x7b' :: rest =>
      (sequence? (member? Given.readMember?) '\x7d' {} rest).map fun (given, rest) =>
        (given.complete, rest)
  | '[' :: rest =>
      (sequence? Given.readElement? ']' {} rest).map fun (given, rest) =>
        (given.complete, rest)
  | _ => none

def ofJson (text : String) : Except Error Config :=
  match read? text.toList with
  | some (config, rest) =>
      if trimStart rest = [] then .ok config
      else .error (ErrorKind.serialization (.unreadable "configuration"))
  | none => .error (ErrorKind.serialization (.unreadable "configuration"))

end Config

end EntityBase
