import EntityPack.Identifier
import EntityPack.Json

/-!
# Components and component groups

A component is one `minecraft:<kind>` entry of an entity or of a component group, which events add
and remove as a whole. The standard kinds are those that entities and loop states are made of.
-/
namespace EntityPack

structure Component where
  kind : String
  body : Entries Json := []
  deriving Inhabited, BEq

namespace Component

def id (c : Component) : String := "minecraft:" ++ c.kind

def payload (c : Component) : Json := .obj c.body

def set (key : String) (value : Json) (c : Component) : Component :=
  { c with body := Entries.insert key value c.body }

def ofFields (kind : String) (fields : Entries Json) : Component :=
  { kind, body := Entries.ofList fields }

def mapText (f : String → String) (c : Component) : Component :=
  { c with body := Json.mapTextFields f c.body }

/-- The object that holds a list of components; the last of a kind wins. -/
def objectOf (components : List Component) : Json :=
  .ofFields (components.map fun c => (c.id, c.payload))

def find? (kind : String) (components : List Component) : Option Component :=
  components.find? (·.kind == kind)

end Component

inductive Damage where
  | fixed (amount : Nat)
  | range (min max : Nat)
  deriving DecidableEq, Repr, Inhabited

def Damage.toJson : Damage → Json
  | .fixed amount => .ofNat amount
  | .range min max => .arr [.ofNat min, .ofNat max]

namespace Component

def withPriority (kind : String) (priority : Nat) : Component :=
  ⟨kind, [("priority", .ofNat priority)]⟩

def health (points : Nat) : Component :=
  ⟨"health", [("max", .ofNat points), ("value", .ofNat points)]⟩

def plainAttack (damage : Damage) : Component := ⟨"attack", [("damage", damage.toJson)]⟩

/-- An effect and its duration are given together or not at all. -/
def attack (damage : Damage) (effect : Option String) (duration : Option Float) :
    Except BuildError Component :=
  match effect, duration with
  | none, none => .ok (plainAttack damage)
  | some effect, some duration =>
    .ok (((plainAttack damage).set "effect_name" (.str effect)).set
      "effect_duration" (.ofFloat duration))
  | _, _ => .error .incompleteEffect

def movement (speed : Float) : Component := ⟨"movement", [("value", .ofFloat speed)]⟩

def timerKind : String := "timer"

def expiry (event : String) : Json := .obj [("event", .str event)]

def timer (length : Float) (event : String) : Component :=
  ⟨timerKind, [("randomInterval", .bool false), ("time", .ofFloat length),
    ("time_down_event", expiry event)]⟩

def timerEvent? (c : Component) : Option String :=
  if c.kind = timerKind then do
    let field ← Entries.get? "time_down_event" c.body
    let event ← field.get? "event"
    event.text?
  else none

def setTimerEvent (event : String) (c : Component) : Component × Bool :=
  if c.kind = timerKind then (c.set "time_down_event" (expiry event), true) else (c, false)

def tagTrigger (tag event : String) : Json :=
  .obj [("filters", .obj [("test", .str "has_tag"), ("value", .str tag)]),
    ("event", .str event)]

def tagSensor (tag event : String) : Component :=
  ⟨"environment_sensor", [("triggers", .arr [tagTrigger tag event])]⟩

/-- One trigger for each tag and the event at its position. -/
def tagSensorList (tags events : List String) : Except BuildError Component :=
  if tags.length = events.length then
    .ok ⟨"environment_sensor", [("triggers", .arr (List.zipWith tagTrigger tags events))]⟩
  else .error (.tagEventMismatch tags.length events.length)

def skinId (id : Nat) : Component := ⟨"skin_id", [("value", .ofNat id)]⟩

def variant (value : Int) : Component := ⟨"variant", [("value", .int value)]⟩

def markVariant (value : Int) : Component := ⟨"mark_variant", [("value", .int value)]⟩

def noDamage : Component :=
  ⟨"damage_sensor", [("triggers",
    .obj [("on_damage", .obj [("filters", .obj [])]), ("deals_damage", .bool false)])]⟩

def scale (value : Float) : Component := ⟨"scale", [("value", .ofFloat value)]⟩

def collisionBox (width height : Float) : Component :=
  ⟨"collision_box", [("width", .ofFloat width), ("height", .ofFloat height)]⟩

def physics : Component := ⟨"physics", []⟩

def instantDespawn : Component := ⟨"instant_despawn", []⟩

def typeFamily (families : List String) : Component :=
  ⟨"type_family", [("family", .ofStrings families)]⟩

end Component

structure ComponentGroup where
  id : String
  scope : Option String := none
  components : List Component := []
  deriving Inhabited

namespace ComponentGroup

def fullId (g : ComponentGroup) : String := qualify g.scope g.id

def addComponents (components : List Component) (g : ComponentGroup) : ComponentGroup :=
  { g with components := g.components ++ components }

def addTimer (length : Float) (event : String) (g : ComponentGroup) : ComponentGroup :=
  g.addComponents [.timer length event]

/-- Replaces the expiry event of every timer, and says which components are timers. -/
def setTimerEvents (event : String) (g : ComponentGroup) : ComponentGroup × List Bool :=
  let changed := g.components.map (·.setTimerEvent event)
  ({ g with components := changed.map (·.1) }, changed.map (·.2))

def mapText (f : String → String) (g : ComponentGroup) : ComponentGroup :=
  { g with components := g.components.map (·.mapText f) }

def toJson (g : ComponentGroup) : Json := Component.objectOf g.components

end ComponentGroup
end EntityPack
