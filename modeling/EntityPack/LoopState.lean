import EntityPack.Animation
import EntityPack.Component
import EntityPack.Event

/-!
# Loop states

A loop state is one phase of an entity's behavior: a component group with the state's
number, an event that switches to it, and spokes in the controllers that run its commands
and its animation. Spokes leave for the hub once the state is over.
-/
namespace EntityPack

structure LoopState where
  behaviorController : Nat := 0
  renderController : Nat := 0
  components : List Component := []
  entryCommands : Option (List String) := none
  exitCommands : Option (List String) := none
  /-- Seconds before the state advances. -/
  timer : Option Float := none
  /-- Closes the loop: the timer leads back to the first state, whose event removes this
  state's group. -/
  last : Bool := false
  name : Option String := none
  connections : List String := []
  /-- Branch that the timer leads to in place of the next state. -/
  timerBranch : Option String := none
  health : Option Nat := none
  attack : Option Damage := none
  speed : Option Float := none
  noDamage : Bool := false
  animation : Option String := none
  /-- Leave the animation when the state ends, not when the animation has run out. -/
  animationEndsWithState : Bool := true
  blendTime : Float := 0.2
  properties : Option Assignments := none
  deriving Inhabited

namespace LoopState

inductive Edit where
  | setTimer (seconds : Float)
  | closeLoop
  | setName (name : String)
  | connect (branch : String)
  | setTimerBranch (branch : String)
  | setEntryCommands (commands : List String)
  | setExitCommands (commands : List String)
  | useBehaviorController (index : Nat)
  | useRenderController (index : Nat)
  | setAnimation (animation : String)
  | setBlendTime (seconds : Float)
  | letAnimationRunOut
  | addComponent (component : Component)
  | setHealth (points : Nat)
  | setAttack (damage : Damage)
  | setSpeed (speed : Float)
  | blockDamage
  | setProperties (assignments : Assignments)

def edit (s : LoopState) : Edit → LoopState
  | .setTimer seconds => { s with timer := some seconds }
  | .closeLoop => { s with last := true }
  | .setName name => { s with name := some name }
  | .connect branch => { s with connections := s.connections ++ [branch] }
  | .setTimerBranch branch => { s with timerBranch := some branch }
  | .setEntryCommands commands => { s with entryCommands := some commands }
  | .setExitCommands commands => { s with exitCommands := some commands }
  | .useBehaviorController index => { s with behaviorController := index }
  | .useRenderController index => { s with renderController := index }
  | .setAnimation animation => { s with animation := some animation }
  | .setBlendTime seconds => { s with blendTime := seconds }
  | .letAnimationRunOut => { s with animationEndsWithState := false }
  | .addComponent component => { s with components := s.components ++ [component] }
  | .setHealth points => { s with health := some points }
  | .setAttack damage => { s with attack := some damage }
  | .setSpeed speed => { s with speed := some speed }
  | .blockDamage => { s with noDamage := true }
  | .setProperties assignments => { s with properties := some assignments }

/-- Whether nothing differs from a bare state. A blend time that is not a number differs. -/
def isBare (s : LoopState) : Bool :=
  s.behaviorController == 0 && s.renderController == 0 && s.components.isEmpty &&
  s.entryCommands.isNone && s.exitCommands.isNone && s.timer.isNone && !s.last &&
  s.name.isNone && s.connections.isEmpty && s.timerBranch.isNone && s.health.isNone &&
  s.attack.isNone && s.speed.isNone && !s.noDamage && s.animation.isNone &&
  s.animationEndsWithState && s.blendTime == 0.2 && s.properties.isNone

/-- Whether the state needs a behavior controller; an empty list of commands does. -/
def usesCommands (s : LoopState) : Bool := s.entryCommands.isSome || s.exitCommands.isSome

def mentions (s : LoopState) : List String :=
  s.name.toList ++ s.timerBranch.toList ++ s.connections

/-- The branches the state leads to. A timer's branch counts only if there is a timer. -/
def leadsTo (s : LoopState) : List String :=
  s.connections ++ if s.timer.isSome then s.timerBranch.toList else []

def expiryEvent (id : StateId) (s : LoopState) : String :=
  match s.timerBranch with
  | some branch => branch
  | none => if s.last then StateId.first.label else id.next.label

def group (id : StateId) (s : LoopState) : ComponentGroup :=
  { id := id.label
    components := [.skinId id.index] ++
      (s.timer.map fun length => .timer length (s.expiryEvent id)).toList ++
      (s.health.map .health).toList ++
      (s.attack.map .plainAttack).toList ++
      (s.speed.map .movement).toList ++
      (if s.noDamage then [.noDamage] else []) ++
      s.components }

def event (id : StateId) (s : LoopState) : Event :=
  { id := id.label
    add := [id.label]
    remove := (id.prev?.map StateId.label).toList
    properties := (s.properties.map Entries.ofList).getD [] }

def commandSpoke (id : StateId) (s : LoopState) : Controller.State :=
  { id := id.label
    transitions := [(hubState, id.inactiveCondition)]
    onEntry := s.entryCommands.getD []
    onExit := s.exitCommands.getD [] }

def animationSpoke (id : StateId) (animation : String) (s : LoopState) : Controller.State :=
  { id := id.label
    transitions := [(hubState,
      if s.animationEndsWithState then id.inactiveCondition else finishedCondition)]
    animations := [animation]
    blend := some s.blendTime }

end LoopState

namespace Controller

/-- Makes the hub the initial state, lets it lead to the spoke of state `id`, and adds the
spoke. The hub is linked even if the spoke is then refused. -/
def wireSpoke (spoke : State) (id : StateId) (c : Controller) :
    Controller × Except BuildError Unit :=
  let linked := ({ c with initial := hubState }.ensureState hubState).modifyState hubState
    (·.addTransitions [(id.label, id.activeCondition)])
  match linked.addState spoke with
  | .ok wired => (wired, .ok ())
  | .error e => (linked, .error e)

end Controller
end EntityPack
