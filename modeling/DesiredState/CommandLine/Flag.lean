/-!
# Flags and verbs

**Types.** A flag is a switch, which stands alone, or an option, which takes a value.
A flag has a long name and mostly a letter. A verb names a command; it tells which
flags go with the command and how many paths it is applied to.
-/

namespace DesiredState

/-- A switch or an option of the command line. -/
inductive Flag where
  | verbose
  | quiet
  | help
  | version
  | format
  | target
  | jobs
  | templates
deriving DecidableEq, Repr

namespace Flag

/-- The flag takes a value. -/
def takesValue : Flag → Bool
  | .verbose => false
  | .quiet => false
  | .help => false
  | .version => false
  | .format => true
  | .target => true
  | .jobs => true
  | .templates => true

/-- The long name, which stands behind two dashes. -/
def long : Flag → String
  | .verbose => "verbose"
  | .quiet => "quiet"
  | .help => "help"
  | .version => "version"
  | .format => "format"
  | .target => "target"
  | .jobs => "jobs"
  | .templates => "templates"

/-- The letter, which stands behind one dash. -/
def letter? : Flag → Option Char
  | .verbose => some 'v'
  | .quiet => some 'q'
  | .help => some 'h'
  | .version => some 'V'
  | .format => some 'f'
  | .target => some 't'
  | .jobs => some 'j'
  | .templates => none

/-- The flags that go with every command, and that may stand before its name. -/
def global : List Flag :=
  [.verbose, .quiet, .help, .version]

end Flag

/-- The name of a command. -/
inductive Verb where
  | compile
  | resolve
  | diff
  | options
deriving DecidableEq, Repr

namespace Verb

/-- The verbs in the order in which they are listed. -/
def all : List Verb :=
  [.compile, .resolve, .diff, .options]

/-- The word for the verb. -/
def name : Verb → String
  | .compile => "compile"
  | .resolve => "resolve"
  | .diff => "diff"
  | .options => "options"

/-- The verb of a word, spelled exactly. -/
def ofName? (name : String) : Option Verb :=
  all.find? fun verb => verb.name = name

/-- The flags that go with the command. -/
def flags : Verb → List Flag
  | .compile => Flag.global ++ [.format, .target, .jobs, .templates]
  | .resolve => Flag.global ++ [.format]
  | .diff => Flag.global ++ [.target, .templates]
  | .options => Flag.global

/-- How many paths the command takes at most; none stands for any number. -/
def maxPaths? : Verb → Option Nat
  | .compile => none
  | .resolve => some 1
  | .diff => some 2
  | .options => some 0

end Verb
end DesiredState
