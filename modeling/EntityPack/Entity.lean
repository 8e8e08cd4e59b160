import EntityPack.Behavior
import EntityPack.Branch
import EntityPack.ClientEntity
import EntityPack.Component
import EntityPack.Json
import EntityPack.Template

/-!
# Entities

An entity under construction: its behavior file, its client entity, its controllers, and the loop
states and branches that have been added. It starts from options and from the versions of the
formats that its documents are written in.
-/
namespace EntityPack

structure FormatVersions where
  behavior : String := "1.16.0"
  resource : String := "1.10.0"
  controller : String := "1.10.0"
  animation : String := "1.8.0"
  item : String := "1.16.100"
  deriving DecidableEq, Repr, Inhabited

structure Sounds where
  ambient : Option String := none
  hurt : Option String := none
  death : Option String := none
  step : Option String := none
  pitch : Float × Float := (0.8, 1.2)
  volume : Float := 1.0
  deriving DecidableEq, Inhabited

namespace Sounds

def events (s : Sounds) : Entries Json :=
  [("ambient", s.ambient), ("step", s.step), ("hurt", s.hurt), ("death", s.death)].filterMap
    fun (key, sound) => sound.map fun sound => (key, .str sound)

def toJson (s : Sounds) : Json :=
  .obj ((if s.events.isEmpty then [] else [("events", .obj s.events)]) ++
    [("pitch", .arr [.ofFloat s.pitch.1, .ofFloat s.pitch.2]),
      ("volume", .ofFloat s.volume)])

end Sounds

structure Options where
  /-- Id without scope; made from the name if absent. -/
  id : Option String := none
  eggName : Option String := none
  collision : Float × Float := (0.0, 0.0)
  health : Option Nat := none
  attack : Option Damage := none
  speed : Option Float := none
  physics : Bool := true
  noDamage : Bool := false
  spawnGroups : List String := []
  graphics : Bool := false
  invisible : Bool := false
  runtimeId : Option String := none
  /-- Adds a group and an event that despawn the entity. -/
  despawnable : Bool := false
  sounds : Sounds := {}
  bindings : Variables := .empty
  versions : FormatVersions := {}
  deriving Inhabited

structure Entity where
  scope : String
  name : String
  id : String
  eggName : String
  versions : FormatVersions
  behavior : Behavior
  client : Option ClientEntity
  behaviorControllers : List Controller := []
  renderControllers : List Controller := []
  stateCount : Nat := 0
  branches : Registry := []
  sounds : Sounds
  bindings : Variables
  deriving Inhabited

namespace Entity

def fullId (e : Entity) : String := qualify (some e.scope) e.id

def despawnName : String := "despawn"

def despawnGroup : ComponentGroup := { id := despawnName, components := [.instantDespawn] }

def despawnEvent : Event := { id := despawnName, add := [despawnName] }

def initialComponents (o : Options) : List Component :=
  [.collisionBox o.collision.1 o.collision.2] ++
  (o.health.map .health).toList ++
  (o.attack.map .plainAttack).toList ++
  (o.speed.map .movement).toList ++
  (if o.physics then [.physics] else []) ++
  (if o.noDamage then [.noDamage] else [])

def new (scope name : String) (o : Options) : Entity :=
  let id := o.id.getD (idOfName name)
  let fullId := qualify (some scope) id
  { scope, name, id
    eggName := o.eggName.getD ("Spawn " ++ name)
    versions := o.versions
    behavior :=
      { id := fullId
        runtimeId := o.runtimeId
        components := initialComponents o
        groups := if o.despawnable then [despawnGroup] else []
        events := if o.despawnable then [despawnEvent] else []
        spawnGroups := o.spawnGroups }
    client := if o.graphics then
        some { ClientEntity.new fullId with invisible := o.invisible }
      else none
    sounds := o.sounds
    bindings := o.bindings }

def nextState (e : Entity) : StateId := ⟨e.stateCount⟩

def controllers (kind : ControllerKind) (e : Entity) : List Controller :=
  match kind with
  | .behavior => e.behaviorControllers
  | .render => e.renderControllers

def setControllers (kind : ControllerKind) (controllers : List Controller) (e : Entity) :
    Entity :=
  match kind with
  | .behavior => { e with behaviorControllers := controllers }
  | .render => { e with renderControllers := controllers }

def controllerStem (id : String) : String := "controller.animation." ++ id ++ "_"

/-- Adds a controller at the end. The behavior file lists behavior controllers; a client
entity plays render controllers. -/
def addController (kind : ControllerKind) (c : Controller) (e : Entity) : Entity :=
  match kind with
  | .behavior =>
    { e with
      behavior := e.behavior.addControllerId c.id
      behaviorControllers := e.behaviorControllers ++ [c] }
  | .render =>
    { e with
      client := e.client.map (·.addController c.id)
      renderControllers := e.renderControllers ++ [c] }

def createController (kind : ControllerKind) (suffix : String) (initial : Option String)
    (e : Entity) : Entity :=
  e.addController kind { id := controllerStem e.id ++ suffix, initial := initial.getD hubState }

def restem? (old new id : String) : Option String :=
  if old.toList.isPrefixOf id.toList then
    some (new ++ String.ofList (id.toList.drop old.length))
  else none

def renameController (old new : String) (c : Controller) : Controller :=
  { c with id := (restem? old new c.id).getD c.id }

/-- Renames the slots of render controllers, one controller after the other. -/
def renameSlots (old new : String) (controllers : List Controller) (g : ClientEntity) :
    ClientEntity :=
  controllers.foldl (fun g c =>
    match restem? old new c.id with
    | some id => g.renameAnimation c.id id
    | none => g) g

/-- Gives the entity a new id. Controllers whose ids begin with the old stem are renamed,
along with everything that refers to them. -/
def setId (id : String) (e : Entity) : Entity :=
  let old := controllerStem e.id
  let new := controllerStem id
  let fullId := qualify (some e.scope) id
  let moved :=
    { e with
      id
      behavior := { e.behavior with id := fullId }
      client := e.client.map fun g => { g with id := fullId } }
  if old = new then moved
  else
    { moved with
      behavior := { moved.behavior with
        controllerIds := moved.behavior.controllerIds.map fun id =>
          (restem? old new id).getD id }
      client := moved.client.map (renameSlots old new moved.renderControllers)
      behaviorControllers := moved.behaviorControllers.map (renameController old new)
      renderControllers := moved.renderControllers.map (renameController old new) }

end Entity
end EntityPack
