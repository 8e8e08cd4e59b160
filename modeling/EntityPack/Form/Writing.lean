import EntityPack.Entity
import EntityPack.LoopState

/-!
# Writing forms

Forms are written as JSON with every field, in order. Absent values are `null`.
-/
namespace EntityPack.Form

def optional {α : Type} (write : α → Json) (value : Option α) : Json :=
  (value.map write).getD .null

def ofPair (pair : Float × Float) : Json := .arr [.ofFloat pair.1, .ofFloat pair.2]

def ofComponent (c : Component) : Json := .obj [("kind", .str c.kind), ("body", .obj c.body)]

def ofPropertyValue : PropertyValue → Json
  | .bool value => .obj [("Bool", .bool value)]
  | .int value => .obj [("Int", .int value)]
  | .float value => .obj [("Float", .ofFloat value)]
  | .text value => .obj [("Str", .str value)]
  | .molang expression => .obj [("Molang", .str expression)]

def ofAssignments (assignments : Assignments) : Json :=
  .arr (assignments.map fun entry => .arr [.str entry.1, ofPropertyValue entry.2])

def ofPropertyKind : PropertyKind → Json
  | .range min max => .obj [("Range", .obj [("min", .int min), ("max", .int max)])]
  | .bool => .str "Bool"
  | .enum values => .obj [("Enum", .obj [("values", .arr values)])]

def ofProperty (p : Property) : Json :=
  .obj [("identifier", .str p.id), ("kind", ofPropertyKind p.kind), ("default", p.default),
    ("client_sync", .bool p.clientSync)]

def ofSounds (s : Sounds) : Json :=
  .obj [("ambient", optional .str s.ambient), ("hurt", optional .str s.hurt),
    ("death", optional .str s.death), ("step", optional .str s.step),
    ("pitch", ofPair s.pitch), ("volume", .ofFloat s.volume)]

def ofVersions (v : FormatVersions) : Json :=
  .obj [("behavior_format_version", .str v.behavior),
    ("resource_format_version", .str v.resource),
    ("controller_format_version", .str v.controller),
    ("animation_format_version", .str v.animation),
    ("item_format_version", .str v.item)]

def ofVariables (v : Variables) : Json := .obj v.entries

def ofOptions (o : Options) : Json :=
  .obj [("identifier", optional .str o.id), ("egg_name", optional .str o.eggName),
    ("collision", ofPair o.collision), ("hp", optional .ofNat o.health),
    ("attack", optional Damage.toJson o.attack), ("move_speed", optional .ofFloat o.speed),
    ("has_physics", .bool o.physics), ("no_damage", .bool o.noDamage),
    ("spawn_groups", .ofStrings o.spawnGroups), ("has_graphics", .bool o.graphics),
    ("invisible", .bool o.invisible), ("runtime_identifier", optional .str o.runtimeId),
    ("despawnable", .bool o.despawnable), ("sounds", ofSounds o.sounds),
    ("variables", ofVariables o.bindings), ("config", ofVersions o.versions)]

def ofLoopState (s : LoopState) : Json :=
  .obj [("banco", .ofNat s.behaviorController), ("ranco", .ofNat s.renderController),
    ("components", .arr (s.components.map ofComponent)),
    ("entry_commands", optional .ofStrings s.entryCommands),
    ("exit_commands", optional .ofStrings s.exitCommands),
    ("timer", optional .ofFloat s.timer), ("last_state", .bool s.last),
    ("name", optional .str s.name), ("connections", .ofStrings s.connections),
    ("timer_state", optional .str s.timerBranch), ("hp", optional .ofNat s.health),
    ("attack", optional Damage.toJson s.attack), ("move_speed", optional .ofFloat s.speed),
    ("no_damage", .bool s.noDamage), ("animation", optional .str s.animation),
    ("end_anim_with_state", .bool s.animationEndsWithState),
    ("anim_blend_time", .ofFloat s.blendTime),
    ("set_properties", optional ofAssignments s.properties)]

end EntityPack.Form
