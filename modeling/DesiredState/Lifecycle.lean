import DesiredState.Setting
import DesiredState.Text.Blank

/-!
# Lifecycle

**Types.** A module is installed, absent, disabled, or disabled at boot. An
ensure value is what a declaration demands of its resource.

**Rule.** Three switches decide the state, the strongest first: absent, then
disable, then disable at boot. The state decides what the package, the service,
the files and the integrations have to be.
-/

namespace DesiredState

/-- What a declaration demands of its resource. -/
inductive Ensure where
  | present
  | absent
  | running
  | stopped
  | directory
  | version (text : String)
deriving DecidableEq, Repr

namespace Ensure

/-- The text of the demand. -/
def text : Ensure → String
  | .present => "present"
  | .absent => "absent"
  | .running => "running"
  | .stopped => "stopped"
  | .directory => "directory"
  | .version text => text

/-- The name of the kind of demand. -/
def name : Ensure → String
  | .present => "Present"
  | .absent => "Absent"
  | .running => "Running"
  | .stopped => "Stopped"
  | .directory => "Directory"
  | .version _ => "Version"

/-- What a version demands of a package: two words and the empty text mean
presence, two words absence, and anything else is a version. -/
def ofVersion (version : String) : Ensure :=
  let word := Text.trim version
  if word = "" || word = "present" || word = "installed" then .present
  else if word = "absent" || word = "purged" then .absent
  else .version word

end Ensure

/-- The state of a module. -/
inductive Lifecycle where
  | installed
  | absent
  | disabled
  | disabledAtBoot
deriving DecidableEq, Repr, Inhabited

namespace Lifecycle

/-- The states. -/
def all : List Lifecycle :=
  [.installed, .absent, .disabled, .disabledAtBoot]

/-- The name of the state. -/
def name : Lifecycle → String
  | .installed => "installed"
  | .absent => "absent"
  | .disabled => "disabled"
  | .disabledAtBoot => "disabled_at_boot"

/-- The state of a name. -/
def ofName? (name : String) : Option Lifecycle :=
  all.find? fun state => state.name = name

/-- The state that the three switches decide. -/
def ofSwitches (absent disable disableAtBoot : Switch) : Lifecycle :=
  if absent = .on then .absent
  else if disable = .on then .disabled
  else if disableAtBoot = .on then .disabledAtBoot
  else .installed

/-- The demand on the package. -/
def packageEnsure (state : Lifecycle) (version : String) : Ensure :=
  match state with
  | .absent => .absent
  | _ => .ofVersion version

/-- The demand on the service; none while only its start at boot is off. -/
def serviceEnsure : Lifecycle → Option Ensure
  | .installed => some .running
  | .absent => some .stopped
  | .disabled => some .stopped
  | .disabledAtBoot => none

/-- The service starts at boot. -/
def serviceEnabled : Lifecycle → Bool
  | .installed => true
  | _ => false

/-- The demand on the configuration file. -/
def fileEnsure : Lifecycle → Ensure
  | .absent => .absent
  | _ => .present

/-- The demand on the configuration directory. -/
def directoryEnsure : Lifecycle → Ensure
  | .absent => .absent
  | _ => .directory

/-- The service is monitored. -/
def monitorEnabled : Lifecycle → Bool
  | .installed => true
  | _ => false

/-- The firewall rule is in force. -/
def firewallEnabled : Lifecycle → Bool
  | .installed => true
  | .disabledAtBoot => true
  | _ => false

/-- The demand on the integration descriptor. -/
def integrationEnsure : Lifecycle → Ensure
  | .absent => .absent
  | _ => .present

end Lifecycle
end DesiredState
