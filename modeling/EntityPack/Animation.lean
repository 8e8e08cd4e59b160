import EntityPack.Identifier
import EntityPack.Json
import EntityPack.Json.Printer

/-!
# Animations and animation controllers

Timelines of commands, and the file that holds several of them. Controllers are small machines of
named states with guarded transitions. A transition may name a state that the controller does not
have.
-/
namespace EntityPack

structure TimelineItem where
  /-- Seconds from the start of the animation. -/
  time : Float
  commands : List String := []
  deriving DecidableEq, Inhabited

namespace TimelineItem

def key (item : TimelineItem) : String := Layout.label.write item.time

def addCommands (commands : List String) (item : TimelineItem) : TimelineItem :=
  { item with commands := item.commands ++ commands }

/-- A single command is written bare. -/
def toJson (item : TimelineItem) : Json :=
  match item.commands with
  | [command] => .str command
  | commands => .ofStrings commands

end TimelineItem

structure Animation where
  id : String
  looping : Bool := false
  /-- Length in seconds. -/
  length : Option Float := none
  timeline : List TimelineItem := []
  deriving DecidableEq, Inhabited

namespace Animation

def addItems (items : List TimelineItem) (a : Animation) : Animation :=
  { a with timeline := a.timeline ++ items }

inductive Edit where
  | setLooping (on : Bool)
  | setLength (seconds : Float)
  | addItems (items : List TimelineItem)

def edit (a : Animation) : Edit → Animation
  | .setLooping on => { a with looping := on }
  | .setLength seconds => { a with length := some seconds }
  | .addItems items => a.addItems items

def mapCommands (f : String → String) (a : Animation) : Animation :=
  { a with timeline := a.timeline.map fun item =>
      { item with commands := item.commands.map f } }

def timelineJson (timeline : List TimelineItem) : Json :=
  .ofFields (timeline.map fun item => (item.key, item.toJson))

def toJson (a : Animation) : Json :=
  .obj (
    (if a.looping then [("loop", .bool true)] else []) ++
    (a.length.map fun seconds => ("animation_length", Json.ofFloat seconds)).toList ++
    (if a.timeline.isEmpty then [] else [("timeline", timelineJson a.timeline)]))

/-- The file of several animations; the last of an id wins. -/
def fileDocument (formatVersion : String) (animations : List Animation) : Json :=
  .obj [("format_version", .str formatVersion),
    ("animations", .ofFields (animations.map fun a => (a.id, a.toJson)))]

end Animation

namespace Controller

structure State where
  id : String
  /-- Target state and condition, checked in order. -/
  transitions : List (String × String) := []
  onEntry : List String := []
  onExit : List String := []
  animations : List String := []
  /-- Seconds this state's animations blend into the next state's. -/
  blend : Option Float := none
  deriving DecidableEq, Inhabited

namespace State

def addTransitions (transitions : List (String × String)) (s : State) : State :=
  { s with transitions := s.transitions ++ transitions }

def addEntryCommands (commands : List String) (s : State) : State :=
  { s with onEntry := s.onEntry ++ commands }

def addExitCommands (commands : List String) (s : State) : State :=
  { s with onExit := s.onExit ++ commands }

def addAnimations (animations : List String) (s : State) : State :=
  { s with animations := s.animations ++ animations }

inductive Edit where
  | addTransitions (transitions : List (String × String))
  | addEntryCommands (commands : List String)
  | addExitCommands (commands : List String)
  | addAnimations (animations : List String)
  | setBlend (seconds : Option Float)

def edit (s : State) : Edit → State
  | .addTransitions transitions => s.addTransitions transitions
  | .addEntryCommands commands => s.addEntryCommands commands
  | .addExitCommands commands => s.addExitCommands commands
  | .addAnimations animations => s.addAnimations animations
  | .setBlend seconds => { s with blend := seconds }

def listField (key : String) (texts : List String) : Entries Json :=
  if texts.isEmpty then [] else [(key, .ofStrings texts)]

/-- Empty lists and an absent blend time are left out. -/
def toJson (s : State) : Json :=
  .obj (
    (if s.transitions.isEmpty then []
      else [("transitions", .arr (s.transitions.map fun t => .obj [(t.1, .str t.2)]))]) ++
    listField "on_entry" s.onEntry ++
    listField "on_exit" s.onExit ++
    listField "animations" s.animations ++
    (s.blend.map fun seconds => ("blend_transition", Json.ofFloat seconds)).toList)

end State
end Controller

structure Controller where
  id : String
  initial : String
  states : List Controller.State := []
  deriving DecidableEq, Inhabited

namespace Controller

def state? (id : String) (c : Controller) : Option State := c.states.find? (·.id == id)

def hasState (id : String) (c : Controller) : Bool := (c.state? id).isSome

def addState (s : State) (c : Controller) : Except BuildError Controller :=
  if c.hasState s.id then .error (.duplicateState c.id s.id)
  else .ok { c with states := c.states ++ [s] }

/-- Adds states one by one up to the first that is refused. The states before it stay. -/
def addStates : List State → Controller → Controller × Except BuildError Unit
  | [], c => (c, .ok ())
  | s :: rest, c =>
    match c.addState s with
    | .ok c => c.addStates rest
    | .error e => (c, .error e)

def modifyState (id : String) (f : State → State) (c : Controller) : Controller :=
  { c with states := modifyFirst (·.id == id) f c.states }

def ensureState (id : String) (c : Controller) : Controller :=
  if c.hasState id then c else { c with states := c.states ++ [{ id }] }

inductive Edit where
  | setInitial (state : String)
  | addStates (states : List State)
  | ensureState (id : String)
  | changeState (id : String) (change : State.Edit)

def edit (c : Controller) : Edit → Controller × Except BuildError Unit
  | .setInitial state => ({ c with initial := state }, .ok ())
  | .addStates states => c.addStates states
  | .ensureState id => (c.ensureState id, .ok ())
  | .changeState id change => (c.modifyState id (·.edit change), .ok ())

def toJson (c : Controller) : Json :=
  .obj [("initial_state", .str c.initial),
    ("states", .ofFields (c.states.map fun s => (s.id, s.toJson)))]

def document (formatVersion : String) (c : Controller) : Json :=
  .obj [("format_version", .str formatVersion),
    ("animation_controllers", .obj [(c.id, c.toJson)])]

end Controller
end EntityPack
