import DesiredState.CommandLine.Given
import DesiredState.Text.Search

/-!
# Arguments

**Form.** Flags that go with every command, the name of a command, and the flags and
paths of the command in any order. The letters of several switches may share a dash,
the value of an option may be attached or follow as the next argument, and after two
dashes alone all arguments are paths.

**Order of errors.** Arguments are read from the left. An unknown flag is reported
before a value that has not been examined yet. What is missing is noticed at the end.
-/

namespace DesiredState
namespace Arguments

section Flags

/-- Read what stands behind two dashes. -/
def readLong (flags : List Flag) (given : Given) (text : String) :
    Except UsageError Given :=
  let (name, attached) : String × Option String :=
    match Text.cut? text '=' with
    | none => (text, none)
    | some (name, value) => (name, some value)
  match flags.find? fun flag => flag.long = name with
  | none => .error .unknownArgument
  | some flag =>
      if attached.isSome && !flag.takesValue then .error .tooManyValues
      else takeFlag given flag attached

/-- The value that is attached to a letter, perhaps behind an equals sign. -/
def attachedValue : List Char → Option String
  | [] => none
  | '=' :: value => some (String.ofList value)
  | value => some (String.ofList value)

/-- Read the letters behind one dash. -/
def readLetters (flags : List Flag) (given : Given) : List Char →
    Except UsageError Given
  | [] => .ok given
  | c :: rest =>
      match flags.find? fun flag => flag.letter? = some c with
      | none => .error .unknownArgument
      | some flag =>
          if flag.takesValue then takeFlag given flag (attachedValue rest)
          else
            match takeFlag given flag none with
            | .error e => .error e
            | .ok given => readLetters flags given rest

/-- How an argument is spelled. -/
inductive Shape where
  /-- Two dashes alone. -/
  | separator
  | long (text : String)
  | letters (cs : List Char)
  | plain
deriving DecidableEq, Repr

/-- The shape of an argument; a dash alone is a plain one. -/
def Shape.of (argument : String) : Shape :=
  match argument.toList with
  | ['-', '-'] => .separator
  | '-' :: '-' :: rest => .long (String.ofList rest)
  | ['-'] => .plain
  | '-' :: rest => .letters rest
  | _ => .plain

end Flags

section Commands

/-- Read the paths that are left. -/
def readTrailing (verb : Verb) (given : Given) : List String →
    Except UsageError Given
  | [] => .ok given
  | argument :: rest =>
      match takePath verb.maxPaths? given argument with
      | .error e => .error e
      | .ok given => readTrailing verb given rest

/-- Read an argument that is no flag: the value of an option that waits for one, or a
path. -/
def readPlain (verb : Verb) (given : Given) (argument : String) :
    Except UsageError Given :=
  match given.pending with
  | .value flag none => .ok { given with pending := .value flag (some argument) }
  | _ => takePath verb.maxPaths? given argument

/-- Read the arguments of a command. -/
def readCommand (verb : Verb) (given : Given) : List String →
    Except UsageError Given
  | [] => .ok given
  | argument :: rest =>
      let next : Except UsageError Given :=
        match Shape.of argument with
        | .separator => .ok given
        | .long text => readLong verb.flags given text
        | .letters cs => readLetters verb.flags given cs
        | .plain => readPlain verb given argument
      match next with
      | .error e => .error e
      | .ok given =>
          if argument = "--" then readTrailing verb given rest
          else readCommand verb given rest

/-- The root for templates, which may also be set outside the arguments. -/
def templatesOr (verb : Verb) (given : Given) (preset : Option String) :
    Except UsageError (Option Path) :=
  match given.templates, preset with
  | some path, _ => .ok (some path)
  | none, none => .ok none
  | none, some text =>
      if Flag.templates ∈ verb.flags then (readPath text).map some else .ok none

/-- The command that has been given. -/
def commandOf (verb : Verb) (given : Given) (templates : Option Path) :
    Except UsageError Command :=
  let format := given.format.getD .text
  match verb, given.paths with
  | .compile, input :: inputs =>
      .ok (.compile ⟨input :: inputs, format, given.target, given.jobs, templates⟩)
  | .resolve, [input] => .ok (.resolve ⟨input, format⟩)
  | .diff, [before, after] => .ok (.diff ⟨before, after, given.target, templates⟩)
  | .options, _ => .ok .options
  | _, _ => .error .missingRequiredArgument

/-- Read the arguments behind the name of a command. Where a flag of every command is
given both before and behind the name, the latter counts. -/
def readInvocation (verb : Verb) (preset : Option String) (leading : Given)
    (arguments : List String) : Except UsageError Invocation :=
  match readCommand verb .empty arguments with
  | .error e => .error e
  | .ok given =>
      match settle given with
      | .error e => .error e
      | .ok given =>
          match templatesOr verb given preset with
          | .error e => .error e
          | .ok templates =>
              (commandOf verb given templates).map fun command =>
                { verbosity := (given.verbosity.or leading.verbosity).getD 0
                  quiet := given.quiet || leading.quiet
                  command := command }

/-- The word that asks for help on a command. -/
def helpWord : String := "help"

/-- The word names a command, help included. -/
def isCommandWord (word : String) : Bool :=
  word = helpWord || (Verb.ofName? word).isSome

/-- The end of a request for help on some commands. -/
def helpOn : List String → UsageError
  | [] => .displayHelp
  | [word] => if isCommandWord word then .displayHelp else .invalidSubcommand
  | _ => .invalidSubcommand

/-- Read the arguments behind two dashes where a command is expected. -/
def readMisplaced (leading : Given) : List String → UsageError
  | [] => if leading.isEmpty then .displayHelpOnMissing else .missingSubcommand
  | word :: _ => if isCommandWord word then .unknownArgument else .invalidSubcommand

/-- Read the name of a command and what stands behind it. -/
def readVerb (preset : Option String) (leading : Given) (word : String)
    (arguments : List String) : Except UsageError Invocation :=
  if word = helpWord then .error (helpOn arguments)
  else
    match Verb.ofName? word with
    | none => .error .invalidSubcommand
    | some verb => readInvocation verb preset leading arguments

/-- Read all arguments, after some flags that go with every command. -/
def readAll (preset : Option String) (leading : Given) : List String →
    Except UsageError Invocation
  | [] => .error (if leading.isEmpty then .displayHelpOnMissing else .missingSubcommand)
  | argument :: rest =>
      match Shape.of argument with
      | .separator => .error (readMisplaced leading rest)
      | .plain => readVerb preset leading argument rest
      | .long text =>
          match readLong Flag.global leading text with
          | .error e => .error e
          | .ok leading => readAll preset leading rest
      | .letters cs =>
          match readLetters Flag.global leading cs with
          | .error e => .error e
          | .ok leading => readAll preset leading rest

end Commands

end Arguments

/-- The invocation that some arguments make; a root for templates may be preset. -/
def Invocation.ofArguments (preset : Option String) (arguments : List String) :
    Except UsageError Invocation :=
  Arguments.readAll preset .empty arguments

end DesiredState
