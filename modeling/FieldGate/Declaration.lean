import FieldGate.Text

/-! Declared requirements of fields, as they are written down. -/
namespace FieldGate

/-- What a requirement decides about its entry: whether it can be edited, or whether it is shown. -/
inductive Action
  | enable
  | display
  deriving DecidableEq, Repr

/-- How many of its members a requirement wants to hold. -/
inductive Quantifier
  | all
  | any
  | none
  | one
  deriving DecidableEq, Repr

/-- A clause, which holds if one of its targets does. Conditions and patterns apply to fields among
the targets, arguments to handlers. -/
structure Dependency where
  targets : List String := []
  conditions : List String := []
  patterns : List String := []
  arguments : List String := []
  staticArguments : List String := []
  deriving DecidableEq, Repr

/-- A requirement as it is declared on a field. -/
structure Declaration where
  action : Action
  quantifier : Quantifier := .all
  members : List Dependency
  deriving DecidableEq, Repr

/-- A word is no name of the kind that is asked for. -/
structure TokenError where
  kind : String
  token : String
  deriving DecidableEq, Repr

def TokenError.message (e : TokenError) : String := "Invalid " ++ e.kind ++ ": " ++ e.token

/-- A word without blanks around it, underscores and hyphens, in small ASCII letters. -/
def plainToken (s : String) : String :=
  String.ofList <|
    ((Text.trim s.toList).filter fun c => c != '_' && c != '-').map Char.toLower

namespace Action

def name : Action → String
  | enable => "enable"
  | display => "display"

def ofToken (s : String) : Except TokenError Action :=
  match plainToken s with
  | "enable" | "enableif" => .ok enable
  | "display" | "displayif" => .ok display
  | _ => .error ⟨"action", s⟩

end Action

namespace Quantifier

def name : Quantifier → String
  | all => "all"
  | any => "any"
  | none => "none"
  | one => "one"

def ofToken (s : String) : Except TokenError Quantifier :=
  match plainToken s with
  | "all" => .ok all
  | "any" => .ok any
  | "none" => .ok none
  | "one" => .ok one
  | _ => .error ⟨"quantifier", s⟩

end Quantifier

namespace Dependency

def on (target : String) : Dependency := { targets := [target] }

def onAny (targets : List String) : Dependency := { targets }

def when (d : Dependency) (literal : String) : Dependency :=
  { d with conditions := d.conditions ++ [literal] }

def matching (d : Dependency) (pattern : String) : Dependency :=
  { d with patterns := d.patterns ++ [pattern] }

def withArgument (d : Dependency) (reference : String) : Dependency :=
  { d with arguments := d.arguments ++ [reference] }

def withStaticArgument (d : Dependency) (literal : String) : Dependency :=
  { d with staticArguments := d.staticArguments ++ [literal] }

def hasConditions (d : Dependency) : Bool := !d.conditions.isEmpty || !d.patterns.isEmpty

def hasArguments (d : Dependency) : Bool := !d.arguments.isEmpty || !d.staticArguments.isEmpty

end Dependency

namespace Declaration

def single (action : Action) (d : Dependency) : Declaration := { action, members := [d] }

def group (action : Action) (quantifier : Quantifier) (members : List Dependency) :
    Declaration :=
  { action, quantifier, members }

def enableIf (d : Dependency) : Declaration := single .enable d

def displayIf (d : Dependency) : Declaration := single .display d

def hasArguments (d : Declaration) : Bool := d.members.any Dependency.hasArguments

end Declaration

end FieldGate
