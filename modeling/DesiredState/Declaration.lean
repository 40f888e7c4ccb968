import DesiredState.KeyMap
import DesiredState.Lifecycle

/-!
# Declarations

**Types.** A declaration demands a state of one resource: a package, a service,
a file, a monitor, a firewall rule or an integration. It is known by the kind
and the identifier of its resource, carries named attributes, and may notify
another resource.
-/

namespace DesiredState

/-- What a resource is. -/
inductive Kind where
  | package
  | service
  | file
  | monitor
  | firewall
  | integration
deriving DecidableEq, Repr, Inhabited

namespace Kind

/-- The kinds in their order. -/
def all : List Kind :=
  [.package, .service, .file, .monitor, .firewall, .integration]

/-- The name of the kind. -/
def name : Kind → String
  | .package => "package"
  | .service => "service"
  | .file => "file"
  | .monitor => "monitor"
  | .firewall => "firewall"
  | .integration => "integration"

/-- The name of the kind in references and titles. -/
def title : Kind → String
  | .package => "Package"
  | .service => "Service"
  | .file => "File"
  | .monitor => "Monitor"
  | .firewall => "Firewall"
  | .integration => "Integration"

/-- The kind of a name, spelled exactly. -/
def ofName? (name : String) : Option Kind :=
  all.find? fun kind => kind.name = name

/-- The characters without one final `s`. -/
def dropPlural (cs : List Char) : List Char :=
  if cs.getLast? = some 's' then cs.dropLast else cs

/-- The kind that a user's word names: blanks around it, the case of its ASCII
letters and one plural `s` do not count. -/
def ofWord? (word : String) : Option Kind :=
  ofName? (String.ofList (dropPlural (Text.trim word).toLower.toList))

theorem mem_all (kind : Kind) : kind ∈ all := by
  cases kind <;> decide

theorem ofName?_name (kind : Kind) : ofName? kind.name = some kind := by
  cases kind <;> decide

end Kind

/-- The identity of a resource. -/
structure Ref where
  kind : Kind
  id : String
deriving DecidableEq, Repr, Inhabited

/-- The reference as messages show it. -/
def Ref.text (ref : Ref) : String :=
  ref.kind.title ++ "[" ++ ref.id ++ "]"

/-- The value of an attribute. -/
inductive Attribute where
  | boolean (value : Bool)
  | text (value : String)
  | mapping (entries : KeyMap String)
deriving DecidableEq

namespace Attribute

/-- The entries of a mapping between braces. -/
def mappingText (entries : KeyMap String) : String :=
  "\x7b" ++ String.intercalate ", "
    (entries.entries.map fun entry => entry.1 ++ "=" ++ entry.2) ++ "\x7d"

/-- The value as messages show it. -/
def display : Attribute → String
  | .boolean value => RawValue.booleanText value
  | .text value => value
  | .mapping entries => mappingText entries

/-- The boolean of a boolean attribute. -/
def boolean? : Attribute → Option Bool
  | .boolean value => some value
  | _ => none

/-- The text of a text attribute. -/
def text? : Attribute → Option String
  | .text value => some value
  | _ => none

end Attribute

/-- The demand on one resource. -/
structure Declaration where
  kind : Kind
  id : String
  attributes : KeyMap Attribute
  notifies : Option Ref
deriving DecidableEq

namespace Declaration

/-- The resource that the declaration is about. -/
def ref (decl : Declaration) : Ref :=
  ⟨decl.kind, decl.id⟩

/-- The declaration of a resource by a list of attributes, some of which may be
missing. -/
def ofAttributes (ref : Ref) (attributes : List (String × Option Attribute)) :
    Declaration :=
  { kind := ref.kind
    id := ref.id
    attributes :=
      attributes.foldl (fun m entry => m.insertSome entry.1 entry.2) .empty
    notifies := none }

/-- The text of the attribute `ensure`. -/
def ensure? (decl : Declaration) : Option String :=
  (decl.attributes.get? "ensure").bind Attribute.text?

/-- The boolean of the attribute `enable`. -/
def enable? (decl : Declaration) : Option Bool :=
  (decl.attributes.get? "enable").bind Attribute.boolean?

/-- The resource is demanded to be there: neither absent nor stopped. -/
def isPresent (decl : Declaration) : Bool :=
  match decl.ensure? with
  | none => false
  | some ensure => ensure ≠ Ensure.absent.text && ensure ≠ Ensure.stopped.text

end Declaration
end DesiredState
