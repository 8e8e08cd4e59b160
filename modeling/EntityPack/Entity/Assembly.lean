import EntityPack.Animation
import EntityPack.Behavior
import EntityPack.Branch
import EntityPack.Entity
import EntityPack.LoopState

/-!
# Assembling an entity

Operations that can fail. A failed operation keeps the changes that it made before it failed; adding
a loop state therefore checks everything first. Resolution makes the events of both ends of each
connection remove the other end's group, then puts state ids for branch names wherever ids and
commands stand.
-/
namespace EntityPack

namespace Branch

/-- The events of two connected states remove each other's group. -/
def stitch (target source : StateId) (b : Behavior) : Behavior :=
  if source = target then b
  else (b.modifyEvent target.label (·.ensureRemoves source.label)).modifyEvent source.label
    (·.ensureRemoves target.label)

def stitchAll (branches : List ResolvedBranch) (b : Behavior) : Behavior :=
  branches.foldl (fun b branch =>
    branch.sources.foldl (fun b source => stitch branch.target source b) b) b

def resolveBehavior (branches : List ResolvedBranch) (b : Behavior) : Behavior :=
  let id := substituteId branches
  { b with
    events := b.events.map (·.mapReferences id)
    spawnSequential := b.spawnSequential.map (·.mapReferences id)
    spawnGroups := b.spawnGroups.map id
    spawnRandomizers := b.spawnRandomizers.map (·.mapReferences id)
    components := b.components.map (·.mapText id)
    groups := b.groups.map (·.mapText id)
    animations := b.animations.map (·.mapCommands (substituteText branches)) }

def resolveState (branches : List ResolvedBranch) (s : Controller.State) : Controller.State :=
  { s with
    transitions := s.transitions.map fun t =>
      (substituteId branches t.1, substituteText branches t.2)
    onEntry := s.onEntry.map (substituteText branches)
    onExit := s.onExit.map (substituteText branches) }

def resolveController (branches : List ResolvedBranch) (c : Controller) : Controller :=
  { c with states := c.states.map (resolveState branches) }

end Branch

abbrev Assembly := ExceptT BuildError (StateM Entity)

namespace Assembly

variable {α : Type}

def apply (a : Assembly α) (e : Entity) : Entity × Except BuildError α :=
  let (outcome, e) := (a.run.run e).run
  (e, outcome)

def check (f : Entity → Except BuildError α) : Assembly α :=
  ExceptT.mk fun e => (f e, e)

def update (f : Entity → Entity) : Assembly Unit := modify f

def onController (kind : ControllerKind) (index : Nat)
    (f : Controller → Controller × Except BuildError Unit) : Assembly Unit :=
  ExceptT.mk fun e =>
    let controllers := e.controllers kind
    match controllers[index]? with
    | none => (.error (.controllerIndex kind index controllers.length), e)
    | some c =>
      let (c, outcome) := f c
      (outcome, e.setControllers kind (controllers.set index c))

end Assembly

namespace Entity

def addControllerState (kind : ControllerKind) (index : Nat) (s : Controller.State) :
    Assembly Unit :=
  .onController kind index fun c => c.addStates [s]

def checkIndex (kind : ControllerKind) (index : Nat) (e : Entity) : Except BuildError Unit :=
  if index < (e.controllers kind).length then .ok ()
  else .error (.controllerIndex kind index (e.controllers kind).length)

def checkFree (kind : ControllerKind) (index : Nat) (state : String) (e : Entity) :
    Except BuildError Unit :=
  match (e.controllers kind)[index]? with
  | none => .error (.controllerIndex kind index (e.controllers kind).length)
  | some c => if c.hasState state then .error (.duplicateState c.id state) else .ok ()

/-- Everything that could make a loop state fail, in the order in which it is reported. -/
def checkLoopState (s : LoopState) (e : Entity) : Except BuildError Unit := do
  let state := e.nextState.label
  if s.usesCommands then checkIndex .behavior s.behaviorController e
  if s.animation.isSome then checkIndex .render s.renderController e
  if s.usesCommands then checkFree .behavior s.behaviorController state e
  if s.animation.isSome then checkFree .render s.renderController state e
  match s.mentions.find? Branch.isReserved with
  | some name => .error (.reservedBranchName name)
  | none => .ok ()
  match s.name with
  | some name => e.branches.checkTarget name e.nextState
  | none => .ok ()

def onBehavior (f : Behavior → Behavior) (e : Entity) : Entity :=
  { e with behavior := f e.behavior }

/-- The first loop state also assigns its properties when the entity spawns. -/
def seedProperties (id : StateId) (s : LoopState) (e : Entity) : Entity :=
  match s.properties with
  | some properties =>
    if id.isFirst then
      e.onBehavior fun b => { b with spawnProperties := b.spawnProperties.merge properties }
    else e
  | none => e

/-- The event of the first state removes the group of a state that closes the loop. -/
def closeLoop (id : StateId) (s : LoopState) (e : Entity) : Entity :=
  if s.last && !id.isFirst then
    e.onBehavior (·.modifyEvent StateId.first.label (·.ensureRemoves id.label))
  else e

def bindName (id : StateId) (s : LoopState) : Assembly Unit :=
  match s.name with
  | none => pure ()
  | some name =>
    ExceptT.mk fun e =>
      match e.branches.setTarget name id with
      | .ok branches => (.ok (), { e with branches })
      | .error cause => (.error cause, e)

def addSources (id : StateId) (s : LoopState) (e : Entity) : Entity :=
  { e with branches := s.leadsTo.foldl (fun r name => r.addSource name id) e.branches }

def wireCommands (id : StateId) (s : LoopState) : Assembly Unit :=
  if s.usesCommands then
    .onController .behavior s.behaviorController (·.wireSpoke (s.commandSpoke id) id)
  else pure ()

def wireAnimation (id : StateId) (s : LoopState) : Assembly Unit :=
  match s.animation with
  | some animation =>
    .onController .render s.renderController (·.wireSpoke (s.animationSpoke id animation) id)
  | none => pure ()

def addLoopState (s : LoopState) : Assembly StateId := do
  Assembly.check (checkLoopState s)
  let id := (← get).nextState
  Assembly.update (·.onBehavior (·.addGroup (s.group id)))
  wireCommands id s
  wireAnimation id s
  Assembly.update (seedProperties id s)
  Assembly.update (·.onBehavior (·.addEvent (s.event id)))
  Assembly.update (closeLoop id s)
  bindName id s
  Assembly.update (addSources id s)
  Assembly.update fun e => { e with stateCount := e.stateCount + 1 }
  return id

def withResolved (branches : List ResolvedBranch) (e : Entity) : Entity :=
  { e with
    behavior := Branch.resolveBehavior branches (Branch.stitchAll branches e.behavior)
    behaviorControllers := e.behaviorControllers.map (Branch.resolveController branches)
    renderControllers := e.renderControllers.map (Branch.resolveController branches) }

/-- Fails if a branch was connected to but no state has its name. -/
def resolveBranches : Assembly Unit := do
  let branches ← Assembly.check (·.branches.resolved)
  unless branches.isEmpty do
    Assembly.update (withResolved branches)

end Entity
end EntityPack
