import EntityPack.Entity.Operation
import EntityPack.Form.Reading
import EntityPack.Script.Value

/-!
# Entity scripts

A script describes one entity: its options, its controllers, its properties and its loop
states. Branches stay unresolved until the entity is built.
-/
namespace EntityPack

structure ControllerSpec where
  suffix : String
  initial : Option String := none
  deriving DecidableEq, Repr, Inhabited

structure EntityScript where
  scope : String
  name : String
  options : Options := {}
  behaviorControllers : List ControllerSpec := []
  renderControllers : List ControllerSpec := []
  properties : List Property := []
  states : List LoopState := []
  deriving Inhabited

structure ScriptError where
  index : Nat
  entity : String
  cause : BuildError
  deriving DecidableEq, Repr

def ScriptError.message (e : ScriptError) : String :=
  "Failed to add loop state " ++ toString e.index ++ " of entity '" ++ e.entity ++ "': " ++
    e.cause.message

namespace Form

variable {δ : Type} [Datum δ]

open Datum

def controllerSpec? (d : δ) : Option ControllerSpec := do
  let f ← record? "ControllerSpec" ["name", "initial_state"] d
  return { suffix := ← required f "name" text?
           initial := ← field f "initial_state" none (optionOf text?) }

def entityScript? (d : δ) : Option EntityScript := do
  let f ← record? "EntityScript" ["namespace", "name", "options", "bancos", "rancos",
    "properties", "states"] d
  return { scope := ← required f "namespace" text?
           name := ← required f "name" text?
           options := ← field f "options" {} options?
           behaviorControllers := ← field f "bancos" [] (listOf controllerSpec?)
           renderControllers := ← field f "rancos" [] (listOf controllerSpec?)
           properties := ← field f "properties" [] (listOf property?)
           states := ← field f "states" [] (listOf loopState?) }

end Form

namespace EntityScript

def parse? (text : String) : Option EntityScript := do Form.entityScript? (← Script.read? text)

def createControllers (kind : ControllerKind) (specs : List ControllerSpec) (e : Entity) :
    Entity :=
  specs.foldl (fun e spec => e.createController kind spec.suffix spec.initial) e

/-- Adds loop states, numbered from `index` on, up to the first that is refused. -/
def addStates (index : Nat) : List LoopState → Entity → Except ScriptError Entity
  | [], e => .ok e
  | state :: rest, e =>
    match (Entity.addLoopState state).apply e with
    | (e, .ok _) => addStates (index + 1) rest e
    | (e, .error cause) => .error ⟨index, e.fullId, cause⟩

def foundation (s : EntityScript) : Entity :=
  let e := Entity.new s.scope s.name s.options
  let e := createControllers .behavior s.behaviorControllers e
  let e := createControllers .render s.renderControllers e
  e.onBehavior fun b => s.properties.foldl (fun b p => b.addProperty p) b

def toEntity (s : EntityScript) : Except ScriptError Entity := addStates 0 s.states s.foundation

end EntityScript
end EntityPack
