import EntityPack.Entity.Assembly

/-!
# Operations on an entity and its documents

Every way in which an entity can be changed after it has been created, as data. Runs of operations,
failing ones included, are lists.
-/
namespace EntityPack

structure Documents where
  behavior : Json
  resource : Option Json
  behaviorControllers : List Json
  renderControllers : List Json
  animations : Option Json
  sounds : Json
  deriving Inhabited

namespace Documents

/-- Applies `f` to each document, in order; the sounds have no placeholders. -/
def traverse (f : Json → Except BuildError Json) (d : Documents) :
    Except BuildError Documents := do
  let behavior ← f d.behavior
  let resource ← d.resource.mapM f
  let animations ← d.animations.mapM f
  let behaviorControllers ← d.behaviorControllers.mapM f
  let renderControllers ← d.renderControllers.mapM f
  return { behavior, resource, behaviorControllers, renderControllers, animations,
           sounds := d.sounds }

def toJson (one : Json → Json) (d : Documents) : Json :=
  .obj [("behavior", one d.behavior),
    ("resource", (d.resource.map one).getD .null),
    ("behavior_controllers", .arr (d.behaviorControllers.map one)),
    ("render_controllers", .arr (d.renderControllers.map one)),
    ("animations", (d.animations.map one).getD .null),
    ("sounds", one d.sounds)]

end Documents

namespace Entity

def drafts (e : Entity) : Documents :=
  { behavior := e.behavior.document e.versions.behavior
    resource := e.client.map (·.document e.versions.resource)
    behaviorControllers := e.behaviorControllers.map (·.document e.versions.controller)
    renderControllers := e.renderControllers.map (·.document e.versions.controller)
    animations :=
      if e.behavior.animations.isEmpty then none
      else some (Animation.fileDocument e.versions.animation e.behavior.animations)
    sounds := e.sounds.toJson }

def documents (e : Entity) : Except BuildError Documents := e.drafts.traverse e.bindings.render

def build : Assembly Documents := do
  resolveBranches
  Assembly.check documents

inductive Operation where
  | setId (id : String)
  | setScope (scope : String)
  | addComponents (components : List Component)
  | addGroup (group : ComponentGroup)
  | addEvent (event : Event)
  | addSpawnGroups (groups : List String)
  | createController (kind : ControllerKind) (suffix : String) (initial : Option String)
  | addController (kind : ControllerKind) (controller : Controller)
  | addControllerState (kind : ControllerKind) (index : Nat) (state : Controller.State)
  | addLoopState (state : LoopState)
  | resolveBranches
  | build
  | setSounds (sounds : Sounds)
  | setVariables (bindings : Variables)
  | setVariable (name : String) (value : Json)
  | setVersions (versions : FormatVersions)
  | setClient (client : Option ClientEntity)
  | editClient (edit : ClientEntity.Edit)
  | editBehavior (edit : Behavior.Edit)

inductive Answer where
  | done
  | position (index : Nat)
  | state (id : StateId)
  | documents (documents : Documents)

def perform : Operation → Assembly Answer
  | .setId id => do
    Assembly.update (setId id)
    return .done
  | .setScope scope => do
    Assembly.update fun e => { e with scope }
    return .done
  | .addComponents components => do
    Assembly.update (·.onBehavior (·.addComponents components))
    return .done
  | .addGroup group => do
    Assembly.update (·.onBehavior (·.addGroup group))
    return .done
  | .addEvent event => do
    Assembly.update (·.onBehavior (·.addEvent event))
    return .done
  | .addSpawnGroups groups => do
    Assembly.update (·.onBehavior (·.addSpawnGroups groups))
    return .done
  | .createController kind suffix initial => do
    let index := ((← get).controllers kind).length
    Assembly.update (createController kind suffix initial)
    return .position index
  | .addController kind controller => do
    let index := ((← get).controllers kind).length
    Assembly.update (addController kind controller)
    return .position index
  | .addControllerState kind index state => do
    addControllerState kind index state
    return .done
  | .addLoopState state => do
    return .state (← addLoopState state)
  | .resolveBranches => do
    resolveBranches
    return .done
  | .build => do
    return .documents (← build)
  | .setSounds sounds => do
    Assembly.update fun e => { e with sounds }
    return .done
  | .setVariables bindings => do
    Assembly.update fun e => { e with bindings }
    return .done
  | .setVariable name value => do
    Assembly.update fun e => { e with bindings := e.bindings.set name value }
    return .done
  | .setVersions versions => do
    Assembly.update fun e => { e with versions }
    return .done
  | .setClient client => do
    Assembly.update fun e => { e with client }
    return .done
  | .editClient edit => do
    Assembly.update fun e => { e with client := e.client.map (·.edit edit) }
    return .done
  | .editBehavior edit => do
    Assembly.update (·.onBehavior (·.edit edit))
    return .done

/-- The entity after one operation, whether it succeeds or not. -/
def after (e : Entity) (op : Operation) : Entity := ((perform op).apply e).1

def run (e : Entity) (ops : List Operation) : Entity := ops.foldl after e

end Entity
end EntityPack
