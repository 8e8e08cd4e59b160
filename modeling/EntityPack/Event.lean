import EntityPack.Identifier
import EntityPack.Json

/-!
# Events and the properties they assign

An event adds and removes component groups, assigns properties, picks one of several weighted
options, runs sub-events in sequence and triggers a next event. Its JSON form has up to three
layers: the own action, split into steps when there are options; an outer sequence with the
sub-events; and the trigger, which is written last.
-/
namespace EntityPack

def propertyKey (id : String) : String := "property:" ++ id

/-- An assigned value. A text literal is written in single quotes, an expression as it
stands. -/
inductive PropertyValue where
  | bool (value : Bool)
  | int (value : Int)
  | float (value : Float)
  | text (value : String)
  | molang (expression : String)
  deriving DecidableEq, Inhabited

def PropertyValue.toJson : PropertyValue → Json
  | .bool value => .bool value
  | .int value => .int value
  | .float value => .ofFloat value
  | .text value => .str ("'" ++ value ++ "'")
  | .molang expression => .str expression

/-- Assignments in order. Lists read from data may assign an id twice. -/
abbrev Assignments := Entries PropertyValue

def Assignments.toJson (assignments : Assignments) : Json :=
  .ofFields (assignments.map fun entry => (propertyKey entry.1, entry.2.toJson))

inductive PropertyKind where
  | range (min max : Int)
  | bool
  | enum (values : List Json)
  deriving Inhabited

def PropertyKind.name : PropertyKind → String
  | .range .. => "int"
  | .bool => "bool"
  | .enum .. => "enum"

structure Property where
  id : String
  kind : PropertyKind
  default : Json
  clientSync : Bool
  deriving Inhabited

namespace Property

def range (id : String) (min max default : Int) : Property :=
  ⟨id, .range min max, .int default, false⟩

def boolean (id : String) (default : Bool) : Property := ⟨id, .bool, .bool default, false⟩

def enumeration (id : String) (values : List Json) (default : Json) : Property :=
  ⟨id, .enum values, default, false⟩

def synced (p : Property) : Property := { p with clientSync := true }

def key (p : Property) : String := propertyKey p.id

def domain : PropertyKind → String × Json
  | .range min max => ("range", .arr [.int min, .int max])
  | .bool => ("values", .arr [.bool false, .bool true])
  | .enum values => ("values", .arr values)

def toJson (p : Property) : Json :=
  .obj ([domain p.kind, ("default", p.default), ("type", .str p.kind.name)] ++
    if p.clientSync then [("client_sync", .bool true)] else [])

end Property

/-- One weighted option of an event. A list that is present is written even if empty. -/
structure Randomizer where
  weight : Nat := 1
  add : Option (List String) := none
  remove : Option (List String) := none
  properties : Option Assignments := none
  deriving Inhabited

structure Event where
  id : String
  scope : Option String := none
  add : List String := []
  remove : List String := []
  properties : Assignments := []
  randomizers : List Randomizer := []
  sequential : List Event := []
  next : Option String := none
  deriving Inhabited

def groupsJson (groups : List String) : Json :=
  .obj [("component_groups", .ofStrings groups)]

namespace Randomizer

def toJson (r : Randomizer) : Json :=
  .obj ([("weight", .ofNat r.weight)] ++
    (r.add.map fun groups => ("add", groupsJson groups)).toList ++
    (r.remove.map fun groups => ("remove", groupsJson groups)).toList ++
    (r.properties.map fun p => ("set_property", p.toJson)).toList)

def mapReferences (f : String → String) (r : Randomizer) : Randomizer :=
  { r with add := r.add.map (·.map f), remove := r.remove.map (·.map f) }

end Randomizer

namespace Event

def fullId (e : Event) : String := qualify e.scope e.id

def addGroups (groups : List String) (e : Event) : Event := { e with add := e.add ++ groups }

def removeGroups (groups : List String) (e : Event) : Event :=
  { e with remove := e.remove ++ groups }

def removes (e : Event) (group : String) : Bool := e.remove.contains group

def ensureRemoves (group : String) (e : Event) : Event :=
  if e.removes group then e else e.removeGroups [group]

def addRandomizers (randomizers : List Randomizer) (e : Event) : Event :=
  { e with randomizers := e.randomizers ++ randomizers }

def addSequential (events : List Event) (e : Event) : Event :=
  { e with sequential := e.sequential ++ events }

def setProperty (id : String) (value : PropertyValue) (e : Event) : Event :=
  { e with properties := e.properties.insert id value }

def setProperties (assignments : Assignments) (e : Event) : Event :=
  { e with properties := e.properties.merge assignments }

inductive Edit where
  | setScope (scope : String)
  | addGroups (groups : List String)
  | removeGroups (groups : List String)
  | ensureRemoves (group : String)
  | addRandomizers (randomizers : List Randomizer)
  | addSequential (events : List Event)
  | setProperty (id : String) (value : PropertyValue)
  | setProperties (assignments : Assignments)
  | setNext (event : String)

def edit (e : Event) : Edit → Event
  | .setScope scope => { e with scope := some scope }
  | .addGroups groups => e.addGroups groups
  | .removeGroups groups => e.removeGroups groups
  | .ensureRemoves group => e.ensureRemoves group
  | .addRandomizers randomizers => e.addRandomizers randomizers
  | .addSequential events => e.addSequential events
  | .setProperty id value => e.setProperty id value
  | .setProperties assignments => e.setProperties assignments
  | .setNext event => { e with next := some event }

mutual
/-- Applies `f` to every group id and event id the event refers to, at every depth. -/
def mapReferences (f : String → String) : Event → Event
  | ⟨id, scope, add, remove, properties, randomizers, sequential, next⟩ =>
    ⟨id, scope, add.map f, remove.map f, properties,
      randomizers.map (·.mapReferences f), mapAllReferences f sequential, next.map f⟩
def mapAllReferences (f : String → String) : List Event → List Event
  | [] => []
  | e :: rest => e.mapReferences f :: mapAllReferences f rest
end

def primary (add remove : List String) (properties : Assignments) : Entries Json :=
  (if add.isEmpty then [] else [("add", groupsJson add)]) ++
  (if remove.isEmpty then [] else [("remove", groupsJson remove)]) ++
  (if properties.isEmpty then [] else [("set_property", properties.toJson)])

/-- With options, every part of the own action is a step, and the choice is the last one. -/
def ownAction (primary : Entries Json) (randomizers : List Randomizer) : Entries Json :=
  if randomizers.isEmpty then primary
  else [("sequence", .arr (primary.map (fun entry => .obj [entry]) ++
    [.obj [("randomize", .arr (randomizers.map Randomizer.toJson))]]))]

def trigger (event : String) : String × Json :=
  ("trigger", .obj [("event", .str event), ("target", .str "self")])

mutual
def toJson : Event → Json
  | ⟨_, _, add, remove, properties, randomizers, sequential, next⟩ =>
    let own := ownAction (primary add remove properties) randomizers
    let layered := match toJsonAll sequential with
      | [] => own
      | subs => [("sequence", .arr (.obj own :: subs))]
    .obj (layered ++ (next.map trigger).toList)
def toJsonAll : List Event → List Json
  | [] => []
  | e :: rest => e.toJson :: toJsonAll rest
end

end Event
end EntityPack
