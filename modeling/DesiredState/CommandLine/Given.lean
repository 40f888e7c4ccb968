import DesiredState.CommandLine.Command
import DesiredState.CommandLine.Flag
import DesiredState.CommandLine.UsageError

/-!
# What arguments give

**Type.** The values that the arguments of a command have given so far, and what has
been taken up and not been examined yet.

**Rule.** A value that stands as an argument of its own is examined only when the
next flag or path is taken up. An option and a switch are given once, apart from the
switch that counts.
-/

namespace DesiredState
namespace Arguments

/-- What has been taken up and not been examined yet. -/
inductive Pending where
  | nothing
  /-- An option, and its value once it has been given. -/
  | value (flag : Flag) (text : Option String)
  | paths (texts : List String)
deriving DecidableEq, Repr

/-- What the arguments have given so far. -/
structure Given where
  verbosity : Option Nat
  quiet : Bool
  format : Option ReportFormat
  target : Option String
  jobs : Option Nat
  templates : Option Path
  paths : List Path
  /-- How many paths have been taken up, examined or not. -/
  taken : Nat
  pending : Pending
deriving DecidableEq, Repr

namespace Given

/-- Nothing has been given. -/
def empty : Given :=
  ⟨none, false, none, none, none, none, [], 0, .nothing⟩

/-- No switch that goes with every command has been given. -/
def isEmpty (given : Given) : Bool :=
  given.verbosity.isNone && !given.quiet

end Given

section Values

/-- Read a path, which is not empty. -/
def readPath (text : String) : Except UsageError Path :=
  if text = "" then .error .invalidValue else .ok ⟨text⟩

/-- Read some paths. -/
def readPaths : List String → Except UsageError (List Path)
  | [] => .ok []
  | text :: rest =>
      match readPath text with
      | .error e => .error e
      | .ok path =>
          match readPaths rest with
          | .error e => .error e
          | .ok paths => .ok (path :: paths)

/-- Read the form of a report. -/
def readFormat (text : String) : Except UsageError ReportFormat :=
  match ReportFormat.ofName? text with
  | none => .error .invalidValue
  | some format => .ok format

/-- The digits of a number, perhaps behind a plus. -/
def digitsOf (text : String) : List Char :=
  match text.toList with
  | '+' :: digits => digits
  | digits => digits

/-- Read a number of jobs, which fits a word of 64 bits. -/
def readJobs (text : String) : Except UsageError Nat :=
  let digits := digitsOf text
  let value := digits.foldl (fun n c => 10 * n + (c.toNat - '0'.toNat)) 0
  if digits.isEmpty || !digits.all Char.isDigit || Nat.pow 2 64 ≤ value then
    .error .valueValidation
  else .ok value

/-- Put a value in an empty place. -/
def put {α : Type} (place : Option α) (value : Except UsageError α) :
    Except UsageError (Option α) :=
  if place.isSome then .error .argumentConflict else value.map some

/-- Give an option its value. -/
def giveValue (given : Given) (flag : Flag) (text : String) :
    Except UsageError Given :=
  match flag with
  | .format =>
      (put given.format (readFormat text)).map fun v => { given with format := v }
  | .target => (put given.target (.ok text)).map fun v => { given with target := v }
  | .jobs => (put given.jobs (readJobs text)).map fun v => { given with jobs := v }
  | .templates =>
      (put given.templates (readPath text)).map fun v => { given with templates := v }
  | _ => .error .tooManyValues

/-- Give a switch. -/
def giveSwitch (given : Given) (flag : Flag) : Except UsageError Given :=
  match flag with
  | .verbose =>
      .ok { given with verbosity := some (given.verbosity.getD 0 + 1) }
  | .quiet =>
      if given.quiet then .error .argumentConflict else .ok { given with quiet := true }
  | .help => .error .displayHelp
  | .version => .error .displayVersion
  | _ => .error .invalidValue

/-- Examine what is pending. -/
def settle (given : Given) : Except UsageError Given :=
  match given.pending with
  | .nothing => .ok given
  | .value _ none => .error .invalidValue
  | .value flag (some text) => giveValue { given with pending := .nothing } flag text
  | .paths texts =>
      (readPaths texts).map fun paths =>
        { given with paths := given.paths ++ paths, pending := .nothing }

/-- Take up a flag, with its value if one is attached. -/
def takeFlag (given : Given) (flag : Flag) (attached : Option String) :
    Except UsageError Given :=
  match settle given with
  | .error e => .error e
  | .ok given =>
      match flag.takesValue, attached with
      | true, some text => giveValue given flag text
      | true, none => .ok { given with pending := .value flag none }
      | false, _ => giveSwitch given flag

/-- Take up a path. Neighbouring paths of a command that takes any number of them
are examined together. -/
def takePath (maxPaths : Option Nat) (given : Given) (text : String) :
    Except UsageError Given :=
  match maxPaths, given.pending with
  | none, .paths texts =>
      .ok { given with pending := .paths (texts ++ [text]), taken := given.taken + 1 }
  | none, _ =>
      (settle given).map fun given =>
        { given with pending := .paths [text], taken := given.taken + 1 }
  | some most, _ =>
      if given.taken < most then
        (settle given).map fun given =>
          { given with pending := .paths [text], taken := given.taken + 1 }
      else .error .unknownArgument

end Values

end Arguments
end DesiredState
