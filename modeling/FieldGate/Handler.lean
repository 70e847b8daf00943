import FieldGate.Gate
import FieldGate.Handler.Arguments

/-! Handlers of a schema, checked and bound to their constant arguments. -/
namespace FieldGate

variable [PatternEngine]

/-- What keeps a signature from being that of a handler. -/
inductive SignatureDefect
  | returns (type : ValueType)
  | onInstance
  | failures (names : List String)
  | variadic
  deriving DecidableEq, Repr

def SignatureDefect.text : SignatureDefect → String
  | returns type => "Unexpected return type: expected `bool` but found `" ++ type.name ++ "`"
  | onInstance => "Unexpected instance method: only static handlers are supported"
  | failures names => "Unexpected failures declared: " ++ Text.join ", " names
  | variadic => "Unexpected variadic parameter: variadic handlers are disabled"

inductive HandlerError
  | invalidSignature (handler : String) (defects : List SignatureDefect)
  | argumentMismatch (handler : String) (defects : List ArgumentDefect)
  | duplicateKey (key : String)
  | constReference (handler : String) (error : ReferenceError)
  | constLookup (handler : String) (error : LookupError)
  deriving DecidableEq, Repr

namespace HandlerError

/-- The number of defects, then each on a line of its own. -/
def listed (defects : List String) : String :=
  "(" ++ toString defects.length ++ " errors)" ++
    String.join (defects.map fun d => "\n    " ++ d)

def message : HandlerError → String
  | invalidSignature handler defects =>
    "Invalid handler signature on " ++ handler ++ ": " ++
      listed (defects.map SignatureDefect.text)
  | argumentMismatch handler defects =>
    "Invalid parameter types on " ++ handler ++ ": " ++ listed (defects.map ArgumentDefect.text)
  | duplicateKey key => "Multiple methods have the same reference (\"" ++ key ++ "\")"
  | constReference handler error =>
    "Invalid constant parameter on " ++ handler ++ ": " ++ error.message
  | constLookup handler error =>
    "Constant parameter on " ++ handler ++ " has no entry: " ++ error.message

end HandlerError

namespace Signature

def defects (s : Signature) (config : Config) : List SignatureDefect :=
  (if s.returns = .bool then [] else [.returns s.returns]) ++
  (if s.onInstance then [.onInstance] else []) ++
  (if s.failures.isEmpty then [] else [.failures s.failures]) ++
  (if s.isVariadic && !config.allowVariadicHandlers then [.variadic] else [])

def validate (s : Signature) (key : String) (config : Config) : Except HandlerError Unit :=
  if (s.defects config).isEmpty then .ok () else .error (.invalidSignature key (s.defects config))

end Signature

/-- A handler with its constant arguments. The default gate stands for calls that add no arguments,
where the constant ones are enough. -/
structure Handler where
  method : MethodId
  key : String
  signature : Signature
  body : HandlerBody
  constArguments : List BoundEntry
  default : Option Gate := none

namespace Handler

def call (h : Handler) (arguments : List Argument) : Call :=
  { method := h.method, key := h.key, fixed := h.signature.params.length,
    variadic := h.signature.isVariadic, body := h.body, arguments }

def bindAll (h : Handler) (typeOf : EntryId → ValueType) (site : List BoundEntry)
    (literals : List String) : Noted HandlerError Gate :=
  let entries := h.constArguments ++ site
  ((h.signature.checkArguments (entries.map fun b => typeOf b.entry) literals).mapError
    (.argumentMismatch h.key)).andThen fun values =>
      .ok (.leaf (.call (h.call (entries.map .entry ++ values.map .literal))))

/-- Binds the arguments of a call site. A site without any takes the default, if there is one. -/
def bind (h : Handler) (typeOf : EntryId → ValueType) (site : List BoundEntry)
    (literals : List String) : Noted HandlerError Gate :=
  match h.default, site, literals with
  | some g, [], [] => .ok g
  | _, _, _ => h.bindAll typeOf site literals

end Handler

/-- Two maps: the handlers by identity and the identities by key. The handlers stand in the order in
which they were put in. -/
structure HandlerTable where
  handlers : List Handler := []
  names : List (String × MethodId) := []

namespace HandlerTable

def get? (t : HandlerTable) (id : MethodId) : Option Handler :=
  t.handlers.find? fun h => h.method = id

def byKey? (t : HandlerTable) (key : String) : Option Handler := (t.names.lookup key).bind t.get?

def keys (t : HandlerTable) : List String := (t.names.map (·.1)).mergeSort fun a b => a ≤ b

def size (t : HandlerTable) : Nat := t.handlers.length

/-- Puts a handler into both maps. In each it replaces what was there. -/
def insert (t : HandlerTable) (h : Handler) : HandlerTable :=
  { handlers := (t.handlers.filter fun h' => h'.method ≠ h.method) ++ [h]
    names := (t.names.filter fun n => n.1 ≠ h.key) ++ [(h.key, h.method)] }

def holds (t : HandlerTable) (e : EntryId) : Bool :=
  t.handlers.any fun h => h.constArguments.any fun b => b.entry == e

/-- What handlers are resolved against. -/
structure Context where
  schema : Schema
  config : Config
  entries : EntryTable
  typeOf : EntryId → ValueType

def constArguments (c : Context) (owner : TypeId) (key : String) :
    List String → Except HandlerError (List BoundEntry)
  | [] => .ok []
  | text :: rest =>
    match c.schema.parseField c.config.trimReferences owner text with
    | .error e => .error (.constReference key e)
    | .ok r =>
      match c.entries.entry r with
      | .error e => .error (.constLookup key e)
      | .ok entry => (constArguments c owner key rest).map (⟨entry, text⟩ :: ·)

def makeHandler (c : Context) (m : MethodDef) (spec : HandlerSpec) : Noted HandlerError Handler :=
  let key := c.schema.methodKey m.id
  match m.signature.validate key c.config, constArguments c m.id.owner key spec.constParams with
  | .error e, _ => .error e
  | .ok (), .error e => .error e
  | .ok (), .ok constArguments =>
    let h : Handler :=
      { method := m.id, key, signature := m.signature, body := spec.body, constArguments }
    if m.signature.admits constArguments.length then
      (h.bindAll c.typeOf [] []).andThen fun g => .ok { h with default := some g }
    else .ok h

/-- Adds the handlers of methods in turn. No two of them may have one key. -/
def addEach (c : Context) (t : HandlerTable) : List MethodDef → Noted HandlerError HandlerTable
  | [] => .ok t
  | m :: rest =>
    match m.handler with
    | none => addEach c t rest
    | some spec =>
      (makeHandler c m spec).andThen fun h =>
        if (t.names.lookup h.key).isSome then .error (.duplicateKey h.key)
        else addEach c (t.insert h) rest

/-- Checks every handler of the schema, whether a requirement needs it or not. -/
def build (c : Context) : Noted HandlerError HandlerTable := addEach c {} c.schema.handlerMethods

end HandlerTable

end FieldGate
