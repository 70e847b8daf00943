import FieldGate.Schema.Builder

/-! A schema to try things on: a module of toggles, an enum and a slider, fields that depend on
them, and handlers. -/
namespace FieldGate.Example

def package : String := "demo.autoconfig"

def demoEnum : EnumType :=
  ⟨"DependencyDemoEnum", ["EXCELLENT", "GOOD", "OKAY", "BAD", "HORRIBLE"]⟩

/-- Whether the toggle among the arguments is on. -/
def coolToggleIsEnabled : HandlerBody
  | v :: _ => .ok (v.toBool?.getD false)
  | [] => .error "expected one argument"

def coolToggleMatchesLameToggle : HandlerBody
  | a :: b :: _ => .ok (a.same b)
  | _ => .error "expected two arguments"

def intSliderIsBigOrSmall : HandlerBody := fun args =>
  match args.head?.bind Value.toInt? with
  | some n => .ok (70 < n || n < -70)
  | none => .error "intSlider is not an integer"

def coolEnumIsGoodOrBetter : HandlerBody := fun args =>
  match args.head?.bind Value.toText? with
  | some s => .ok (s == "GOOD" || s == "EXCELLENT")
  | none => .ok false

private def dependenciesName : String := "ExampleConfig.ModuleC.DependencySubCategory"

private def handlersName : String := "ExampleConfig.ModuleC.Handlers"

private def objectType (simpleName : String) : ValueType :=
  .object (package ++ "." ++ dependenciesName ++ "." ++ simpleName)

private def addGoverned (s : Schema) (owner : TypeId) (name : String) (type : ValueType)
    (dependencies : List Dependency) : Except SchemaError Schema := do
  let (s, id) ← s.addField owner name type
  dependencies.foldlM (fun s d => s.require id (.enableIf d)) s

private def addHandlers (s : Schema) (owner : TypeId) : Except SchemaError Schema := do
  let bool : ParamType := .exact .bool
  let (s, _) ← s.addHandler owner "coolToggleIsEnabled" (.predicate [bool])
    ⟨[package ++ "." ++ dependenciesName ++ "#coolToggle"], coolToggleIsEnabled⟩
  let (s, _) ← s.addHandler owner "coolToggleMatchesLameToggle" (.predicate [bool, bool])
    ⟨[dependenciesName ++ "#coolToggle", dependenciesName ++ "#lameToggle"],
      coolToggleMatchesLameToggle⟩
  let (s, _) ← s.addHandler owner "intSliderIsBigOrSmall"
    (.predicate [.exact (.number .int32)])
    ⟨[dependenciesName ++ "#intSlider"], intSliderIsBigOrSmall⟩
  let (s, _) ← s.addHandler owner "coolEnumIsGoodOrBetter" (.predicate [.exact (.enum demoEnum)])
    ⟨[dependenciesName ++ "#coolEnum"], coolEnumIsGoodOrBetter⟩
  return s

private def addDependencies (s : Schema) (owner : TypeId) : Except SchemaError Schema := do
  let (s, _) ← s.addField owner "coolToggle" .bool
  let (s, _) ← s.addField owner "lameToggle" .bool
  let (s, _) ← s.addField owner "coolEnum" (.enum demoEnum)
  let (s, _) ← s.addField owner "intSlider" (.number .int32)
  let s ← addGoverned s owner "dependsOnCoolToggle1" .bool [.on "coolToggle"]
  let (s, id) ← s.addField owner "dependsOnCoolToggle2" .bool
  let s ← s.require id (.displayIf (.on (handlersName ++ "#coolToggleIsEnabled")))
  let s ← addGoverned s owner "dependsOnToggleMatch" .bool
    [.on (handlersName ++ "#coolToggleMatchesLameToggle")]
  let s ← addGoverned s owner "dependsOnIntSlider" .bool
    [.on (handlersName ++ "#intSliderIsBigOrSmall")]
  let s ← addGoverned s owner "dependantObject" (objectType "DependantObject")
    [.on "coolToggle",
     ((Dependency.on (dependenciesName ++ "#coolEnum")).when "GOOD").when "EXCELLENT"]
  let s ← addGoverned s owner "dependantCollapsible" (objectType "DependantCollapsible")
    [.on "coolToggle"]
  addGoverned s owner "list" (.list (.number .int32))
    [.on (handlersName ++ "#coolToggleIsEnabled")]

def schema? : Except SchemaError Schema := do
  let s : Schema := {}
  let (s, root) ← s.addRootType package "ExampleConfig"
  let (s, moduleC) ← s.addNestedType root "ModuleC"
  let (s, handlers) ← s.addNestedType moduleC "Handlers"
  let (s, dependencies) ← s.addNestedType moduleC "DependencySubCategory"
  let (s, object) ← s.addNestedType dependencies "DependantObject"
  let (s, collapsible) ← s.addNestedType dependencies "DependantCollapsible"
  let s ← addHandlers s handlers
  let s ← addDependencies s dependencies
  let (s, _) ← s.addField object "toggle1" .bool
  let s ← addGoverned s object "toggle2" .bool
    [((Dependency.on (dependenciesName ++ "#intSlider")).when "50").when "100"]
  let (s, _) ← s.addField collapsible "toggle1" .bool
  let (s, _) ← s.addField collapsible "toggle2" .bool
  addGoverned s moduleC "dependsOnCoolToggleOutside" .bool
    [.on (dependenciesName ++ "#coolToggle")]

def defaultValue (name : String) (type : ValueType) : Value :=
  match name with
  | "lameToggle" | "dependsOnIntSlider" | "toggle2" => .bool true
  | "coolEnum" => .enum "OKAY"
  | "intSlider" => .number (.int32 50)
  | "list" => .list [.number (.int32 1), .number (.int32 2), .number (.int32 3)]
  | _ =>
    match type with
    | .bool => .bool false
    | .number .int32 => .number (.int32 0)
    | .text => .text ""
    | other => .object other.name ""

private def isObject : ValueType → Bool
  | .object _ => true
  | _ => false

/-- An entry for every field of a schema that holds no object: the field, and the type and value of
the entry. -/
def entries (s : Schema) : List (FieldId × ValueType × Value) :=
  let fields := s.types.flatMap TypeDef.fields
  (fields.filter fun f => !isObject f.type).map fun f => (f.id, f.type, defaultValue f.name f.type)

end FieldGate.Example
