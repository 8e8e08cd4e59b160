import EntityPack.Animation
import EntityPack.Component
import EntityPack.Event
import EntityPack.Json

/-!
# The behavior document

Everything in the behavior file of an entity. Lists keep the order in which they were
filled, which is also the order of the document.
-/
namespace EntityPack

structure Behavior where
  id : String
  /-- The built-in entity whose fixed behavior is inherited. -/
  runtimeId : Option String := none
  spawnable : Bool := true
  summonable : Bool := true
  experimental : Bool := false
  controllerIds : List String := []
  animations : List Animation := []
  components : List Component := []
  groups : List ComponentGroup := []
  events : List Event := []
  spawnGroups : List String := []
  spawnRandomizers : List Randomizer := []
  spawnSequential : List Event := []
  spawnProperties : Assignments := []
  properties : List Property := []
  deriving Inhabited

namespace Behavior

def addControllerId (id : String) (b : Behavior) : Behavior :=
  { b with controllerIds := b.controllerIds ++ [id] }

def addAnimation (animation : Animation) (b : Behavior) : Behavior :=
  { b with animations := b.animations ++ [animation] }

def addProperty (property : Property) (b : Behavior) : Behavior :=
  { b with properties := b.properties ++ [property] }

def addComponents (components : List Component) (b : Behavior) : Behavior :=
  { b with components := b.components ++ components }

def addGroup (group : ComponentGroup) (b : Behavior) : Behavior :=
  { b with groups := b.groups ++ [group] }

def addEvent (event : Event) (b : Behavior) : Behavior :=
  { b with events := b.events ++ [event] }

def addSpawnGroups (groups : List String) (b : Behavior) : Behavior :=
  { b with spawnGroups := b.spawnGroups ++ groups }

def event? (id : String) (b : Behavior) : Option Event := b.events.find? (·.fullId == id)

def modifyEvent (id : String) (f : Event → Event) (b : Behavior) : Behavior :=
  { b with events := modifyFirst (·.fullId == id) f b.events }

def group? (id : String) (b : Behavior) : Option ComponentGroup :=
  b.groups.find? (·.fullId == id)

inductive Edit where
  | addControllerId (id : String)
  | addAnimation (animation : Animation)
  | addProperty (property : Property)
  | addComponents (components : List Component)
  | addGroup (group : ComponentGroup)
  | addEvent (event : Event)
  | changeEvent (id : String) (change : Event.Edit)
  | setRuntimeId (id : Option String)
  | setFlags (spawnable summonable experimental : Bool)
  | addSpawnGroups (groups : List String)
  | addSpawnRandomizer (randomizer : Randomizer)
  | addSpawnSequential (event : Event)
  | setSpawnProperty (id : String) (value : PropertyValue)

def edit (b : Behavior) : Edit → Behavior
  | .addControllerId id => b.addControllerId id
  | .addAnimation animation => b.addAnimation animation
  | .addProperty property => b.addProperty property
  | .addComponents components => b.addComponents components
  | .addGroup group => b.addGroup group
  | .addEvent event => b.addEvent event
  | .changeEvent id change => b.modifyEvent id (·.edit change)
  | .setRuntimeId id => { b with runtimeId := id }
  | .setFlags spawnable summonable experimental =>
    { b with spawnable, summonable, experimental }
  | .addSpawnGroups groups => b.addSpawnGroups groups
  | .addSpawnRandomizer randomizer =>
    { b with spawnRandomizers := b.spawnRandomizers ++ [randomizer] }
  | .addSpawnSequential event => { b with spawnSequential := b.spawnSequential ++ [event] }
  | .setSpawnProperty id value =>
    { b with spawnProperties := b.spawnProperties.insert id value }

def hasSpawnActions (b : Behavior) : Bool :=
  !(b.spawnGroups.isEmpty && b.spawnRandomizers.isEmpty && b.spawnSequential.isEmpty &&
    b.spawnProperties.isEmpty)

def bareSpawnEvent : Event := { id := "entity_spawned", scope := some "minecraft" }

/-- The spawn event with every spawn action merged in. One that was added by hand is
extended, not replaced. -/
def spawnEvent? (b : Behavior) : Option Event :=
  if b.hasSpawnActions then
    let explicit := (b.event? bareSpawnEvent.fullId).getD bareSpawnEvent
    some ((((explicit.addGroups b.spawnGroups).addRandomizers b.spawnRandomizers).addSequential
      b.spawnSequential).setProperties b.spawnProperties)
  else none

def controllerSlot (position : Nat) : String := "banco_" ++ toString position

/-- The animation names of the description: the controllers by position, then the
animations by id. -/
def animationSlots (b : Behavior) : Entries Json :=
  Entries.ofList (b.controllerIds.zipIdx.map (fun (id, n) => (controllerSlot n, .str id)) ++
    b.animations.map (fun a => (a.id, .str a.id)))

def controllerScripts (b : Behavior) : Entries Json :=
  if b.controllerIds.isEmpty then []
  else [("scripts", .obj [("animate",
    .arr ((List.range b.controllerIds.length).map fun n =>
      .obj [(controllerSlot n, .str "1")]))])]

def description (b : Behavior) : Json :=
  .obj ([("identifier", .str b.id)] ++
    (b.runtimeId.map fun id => ("runtime_identifier", Json.str id)).toList ++
    [("is_spawnable", .bool b.spawnable), ("is_summonable", .bool b.summonable),
      ("is_experimental", .bool b.experimental)] ++
    b.controllerScripts ++
    (if b.animationSlots.isEmpty then [] else [("animations", .obj b.animationSlots)]) ++
    (if b.properties.isEmpty then []
      else [("properties", .ofFields (b.properties.map fun p => (p.key, p.toJson)))]))

/-- The written events. The merged spawn event stands in for one that was added by hand,
and comes last if there is none. -/
def eventEntries (b : Behavior) : Entries Json :=
  let entry (e : Event) := (e.fullId, e.toJson)
  match b.spawnEvent? with
  | none => Entries.ofList (b.events.map entry)
  | some spawn =>
    Entries.ofList ((b.events.map fun e =>
      if e.fullId = spawn.fullId then entry spawn else entry e) ++ [entry spawn])

def document (formatVersion : String) (b : Behavior) : Json :=
  .obj [("format_version", .str formatVersion),
    ("minecraft:entity", .obj (
      [("description", b.description), ("components", Component.objectOf b.components)] ++
      (if b.groups.isEmpty then []
        else [("component_groups", .ofFields (b.groups.map fun g => (g.fullId, g.toJson)))]) ++
      (if b.eventEntries.isEmpty then [] else [("events", .obj b.eventEntries)])))]

end Behavior
end EntityPack
