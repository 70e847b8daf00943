import FieldGate.Handler

/-! Declared requirements with their references resolved and patterns compiled, and the gates that
they make. -/
namespace FieldGate

variable [PatternEngine]

/-- Why requirements cannot be registered or built. -/
inductive BuildError
  | reference (owner : String) (error : ReferenceError)
  | danglingReference (owner reference : String)
  | condition (owner target : String) (error : ConditionError)
  | lookup (owner : String) (error : LookupError)
  | handler (error : HandlerError)
  | handlerSite (owner : String) (error : HandlerError)
  | ignoredConditions (owner handler : String)
  | emptyRequirement (owner : String)
  | alreadyBuilt
  | registrationClosed (field : String)
  deriving DecidableEq, Repr

def BuildError.message : BuildError → String
  | reference owner error => "Invalid requirement on " ++ owner ++ ": " ++ error.message
  | danglingReference owner text =>
    "Reference \"" ++ text ++
      "\" does not match any Config Entry or Requirement Handler (declared on " ++ owner ++ ")"
  | condition owner target error =>
    "Invalid condition on " ++ owner ++ " for \"" ++ target ++ "\": " ++ error.message
  | lookup owner error => "Invalid requirement on " ++ owner ++ ": " ++ error.message
  | handler error => error.message
  | handlerSite owner error => "Invalid handler call on " ++ owner ++ ": " ++ error.message
  | ignoredConditions owner key =>
    "Conditions declared on " ++ owner ++ " for handler " ++ key ++ " are not supported"
  | emptyRequirement owner => "Requirement on " ++ owner ++ " has no targets"
  | alreadyBuilt => "Requirements have already been built"
  | registrationClosed field =>
    "Cannot register " ++ field ++ ": requirements have already been built"

/-- A clause with its references resolved and patterns compiled. -/
structure Clause where
  targets : List Reference
  conditions : List String
  patterns : List CompiledPattern
  arguments : List FieldReference
  staticArguments : List String

namespace Clause

def hasConditions (c : Clause) : Bool := !c.conditions.isEmpty || !c.patterns.isEmpty

def hasArguments (c : Clause) : Bool := !c.arguments.isEmpty || !c.staticArguments.isEmpty

end Clause

/-- A requirement declared on a field. -/
structure Definition where
  owner : FieldId
  action : Action
  quantifier : Quantifier
  clauses : List Clause

namespace Definition

/-- A reference that names nothing dangles; any other defect is one of the reference itself. -/
def referenceError (owner : String) (e : ReferenceError) : BuildError :=
  if e.isUnresolved then .danglingReference owner e.reference else .reference owner e

/-- Reads a member of a declaration on a field: first its targets, then its arguments, then its
patterns. -/
def parseClause (s : Schema) (trim : Bool) (field : FieldId) (d : Dependency) :
    Except BuildError Clause := do
  let owner := s.fieldKey field
  let targets ← d.targets.mapM fun t =>
    (s.parse trim field.owner t).mapError (referenceError owner)
  let arguments ← d.arguments.mapM fun t =>
    (s.parseField trim field.owner t).mapError (referenceError owner)
  let patterns ← (compilePatterns d.patterns).mapError
    (.condition owner (Text.join ", " d.targets))
  return { targets, conditions := d.conditions, patterns, arguments,
           staticArguments := d.staticArguments }

def parse (s : Schema) (trim : Bool) (field : FieldId) (d : Declaration) :
    Except BuildError Definition := do
  let clauses ← d.members.mapM (parseClause s trim field)
  return { owner := field, action := d.action, quantifier := d.quantifier, clauses }

def parseAll (s : Schema) (trim : Bool) (f : FieldDef) : Except BuildError (List Definition) :=
  f.declarations.mapM (parse s trim f.id)

/-- What definitions are built against. -/
structure Context extends HandlerTable.Context where
  handlers : HandlerTable

def lookupEntry (c : Context) (owner : String) (r : FieldReference) :
    Except BuildError EntryId :=
  (c.entries.entry r).mapError fun e =>
    match e with
    | .unregistered reference => .danglingReference owner reference
    | e => .lookup owner e

/-- The gate of a handler among the targets. Conditions do not apply to it. -/
def handlerGate (c : Context) (owner : String) (clause : Clause) (id : MethodId) (text : String) :
    Noted BuildError Gate :=
  match c.handlers.get? id with
  | none => .error (.danglingReference owner text)
  | some h =>
    if clause.hasConditions && c.config.strictHandlerConditions then
      .error (.ignoredConditions owner h.key)
    else do
      if clause.hasConditions then .warn (.ignoredConditions owner h.key)
      let site ← .ofExcept <| clause.arguments.mapM fun r =>
        (lookupEntry c owner r).map fun e => (⟨e, r.text⟩ : BoundEntry)
      (h.bind c.typeOf site clause.staticArguments).mapError (.handlerSite owner)

/-- The gate of a field among the targets. Arguments do not apply to it. -/
def fieldGate (c : Context) (owner : String) (clause : Clause) (r : FieldReference) :
    Noted BuildError Gate := do
  if clause.hasArguments then .warn (.ignoredArguments owner r.text)
  let e ← .ofExcept (lookupEntry c owner r)
  let conditions ← .ofExcept <|
    (ConditionSet.build (c.typeOf e) clause.conditions clause.patterns).mapError
      (.condition owner r.text)
  return .leaf (.field r.text e conditions)

def targetGate (c : Context) (owner : String) (clause : Clause) (r : Reference) :
    Noted BuildError Gate :=
  match r.target with
  | .method id => handlerGate c owner clause id r.text
  | .field t => fieldGate c owner clause ⟨t, r.text⟩

def clauseGate (c : Context) (owner : String) (clause : Clause) : Noted BuildError Gate :=
  if clause.targets.isEmpty then .error (.emptyRequirement owner)
  else (Noted.each (targetGate c owner clause) clause.targets).andThen fun gs => .ok (.any gs)

def gate (c : Context) (d : Definition) : Noted BuildError Gate :=
  let owner := c.schema.fieldKey d.owner
  if d.clauses.isEmpty then .error (.emptyRequirement owner)
  else (Noted.each (clauseGate c owner) d.clauses).andThen fun gs =>
    .ok (.combine d.quantifier gs)

end Definition

end FieldGate
