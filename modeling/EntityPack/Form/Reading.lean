import EntityPack.Entity
import EntityPack.Json
import EntityPack.LoopState

/-!
# Reading forms

Forms such as loop states are read from JSON values and from script values alike; a class says how a
data language spells the parts that forms are made of. A field that is missing takes its default
value. A field that is present has to be of its type; only optional fields admit the absent value.
-/
namespace EntityPack

class Datum (δ : Type) where
  text? : δ → Option String
  flag? : δ → Option Bool
  integer? : IntegerType → δ → Option Int
  /-- An integer that no type was asked for. -/
  plainInteger? : δ → Option Int
  number? : δ → Option Float
  items? : δ → Option (List δ)
  tuple? : δ → Option (List δ)
  /-- The items of a value that may be a list or a tuple. -/
  sequence? : δ → Option (List δ)
  /-- The value of an optional field; the inner `none` is an absent value. -/
  optional? : δ → Option (Option δ)
  /-- The same where the way a value is written decides about its type. -/
  untypedOptional? : δ → Option (Option δ)
  /-- The declared fields that a record has. Others are dropped. -/
  record? : (name : String) → (fields : List String) → δ → Option (Entries δ)
  entries? : δ → Option (Entries Json)
  case? : δ → Option (String × Option δ)
  /-- The only value that is written with a case. -/
  payload? : δ → Option δ
  /-- The declared fields that are written with a case. -/
  payloadRecord? : (fields : List String) → δ → Option (Entries δ)
  /-- Whether a case without a value may be written with this one. -/
  isUnit : δ → Bool
  json? : δ → Option Json

namespace Json

def integer? (type : IntegerType) : Json → Option Int
  | .int value => if type.holds value then some value else none
  | _ => none

def number? : Json → Option Float
  | .int value => some (if value < 0 then -Float.ofNat value.natAbs else Float.ofNat value.natAbs)
  | .float value => some value
  | _ => none

def optional? : Json → Option (Option Json)
  | .null => some none
  | value => some (some value)

def items? : Json → Option (List Json)
  | .arr items => some items
  | _ => none

/-- A record is an object, or the list of its first fields in order. -/
def record? (fields : List String) : Json → Option (Entries Json)
  | .obj entries => some (entries.filter fun entry => fields.contains entry.1)
  | .arr items => if items.length ≤ fields.length then some (fields.zip items) else none
  | _ => none

instance : Datum Json where
  text? := text?
  flag?
    | .bool value => some value
    | _ => none
  integer? := integer?
  plainInteger?
    | .int value => some value
    | _ => none
  number? := number?
  items? := items?
  tuple? := items?
  sequence? := items?
  optional? := optional?
  untypedOptional? := optional?
  record? _ := record?
  entries?
    | .obj fields => some fields
    | _ => none
  case?
    | .str name => some (name, none)
    | .obj [(name, value)] => some (name, some value)
    | _ => none
  payload? := some
  payloadRecord?
    | declared, .obj entries => record? declared (.obj entries)
    | _, _ => none
  isUnit
    | .null => true
    | _ => false
  json? := some

end Json

namespace Form

variable {δ α : Type} [Datum δ]

open Datum

def natural? (type : IntegerType) (d : δ) : Option Nat := (integer? type d).map Int.toNat

def listOf (read : δ → Option α) (d : δ) : Option (List α) := do (← items? d).mapM read

def texts? (d : δ) : Option (List String) := listOf text? d

def pairOf {β : Type} (first : δ → Option α) (second : δ → Option β) (d : δ) :
    Option (α × β) := do
  match ← tuple? d with
  | [a, b] => return (← first a, ← second b)
  | _ => none

def optionOf (read : δ → Option α) (d : δ) : Option (Option α) := do
  match ← optional? d with
  | some d => return some (← read d)
  | none => return none

def field (fields : Entries δ) (key : String) (default : α) (read : δ → Option α) :
    Option α :=
  match Entries.get? key fields with
  | some d => read d
  | none => some default

def required (fields : Entries δ) (key : String) (read : δ → Option α) : Option α :=
  match Entries.get? key fields with
  | some d => read d
  | none => none

def amount? (d : δ) : Option Nat := do
  let value ← plainInteger? d
  if IntegerType.u32.holds value then some value.toNat else none

def damage? (d : δ) : Option Damage :=
  match amount? d with
  | some amount => some (.fixed amount)
  | none => do
    match ← sequence? d with
    | [min, max] => return .range (← amount? min) (← amount? max)
    | _ => none

def optionalDamage? (d : δ) : Option (Option Damage) := do
  match ← untypedOptional? d with
  | some d => return some (← damage? d)
  | none => return none

def component? (d : δ) : Option Component := do
  let f ← record? "Component" ["kind", "body"] d
  return { kind := ← required f "kind" text?
           body := ← field f "body" [] entries? }

def propertyValue? (d : δ) : Option PropertyValue := do
  match ← case? d with
  | ("Bool", some d) => return .bool (← flag? (← payload? d))
  | ("Int", some d) => return .int (← integer? .i64 (← payload? d))
  | ("Float", some d) => return .float (← number? (← payload? d))
  | ("Str", some d) => return .text (← text? (← payload? d))
  | ("Molang", some d) => return .molang (← text? (← payload? d))
  | _ => none

def assignments? (d : δ) : Option Assignments := listOf (pairOf text? propertyValue?) d

def propertyKind? (d : δ) : Option PropertyKind := do
  match ← case? d with
  | ("Bool", none) => return .bool
  | ("Bool", some d) => if isUnit d then return .bool else none
  | ("Range", some d) =>
    let f ← payloadRecord? ["min", "max"] d
    return .range (← required f "min" (integer? .i64)) (← required f "max" (integer? .i64))
  | ("Enum", some d) =>
    let f ← payloadRecord? ["values"] d
    return .enum (← required f "values" (listOf json?))
  | _ => none

def property? (d : δ) : Option Property := do
  let f ← record? "EntityProperty" ["identifier", "kind", "default", "client_sync"] d
  return { id := ← required f "identifier" text?
           kind := ← required f "kind" propertyKind?
           default := ← required f "default" json?
           clientSync := ← required f "client_sync" flag? }

def sounds? (d : δ) : Option Sounds := do
  let f ← record? "EntitySounds" ["ambient", "hurt", "death", "step", "pitch", "volume"] d
  let bare : Sounds := {}
  return { ambient := ← field f "ambient" bare.ambient (optionOf text?)
           hurt := ← field f "hurt" bare.hurt (optionOf text?)
           death := ← field f "death" bare.death (optionOf text?)
           step := ← field f "step" bare.step (optionOf text?)
           pitch := ← field f "pitch" bare.pitch (pairOf number? number?)
           volume := ← field f "volume" bare.volume number? }

def versions? (d : δ) : Option FormatVersions := do
  let f ← record? "AddonConfig" ["behavior_format_version", "resource_format_version",
    "controller_format_version", "animation_format_version", "item_format_version"] d
  let bare : FormatVersions := {}
  return { behavior := ← field f "behavior_format_version" bare.behavior text?
           resource := ← field f "resource_format_version" bare.resource text?
           controller := ← field f "controller_format_version" bare.controller text?
           animation := ← field f "animation_format_version" bare.animation text?
           item := ← field f "item_format_version" bare.item text? }

def variables? (d : δ) : Option Variables := (entries? d).map Variables.ofList

def options? (d : δ) : Option Options := do
  let f ← record? "EntityOptions" ["identifier", "egg_name", "collision", "hp", "attack",
    "move_speed", "has_physics", "no_damage", "spawn_groups", "has_graphics", "invisible",
    "runtime_identifier", "despawnable", "sounds", "variables", "config"] d
  let bare : Options := {}
  return { id := ← field f "identifier" bare.id (optionOf text?)
           eggName := ← field f "egg_name" bare.eggName (optionOf text?)
           collision := ← field f "collision" bare.collision (pairOf number? number?)
           health := ← field f "hp" bare.health (optionOf (natural? .u32))
           attack := ← field f "attack" bare.attack optionalDamage?
           speed := ← field f "move_speed" bare.speed (optionOf number?)
           physics := ← field f "has_physics" bare.physics flag?
           noDamage := ← field f "no_damage" bare.noDamage flag?
           spawnGroups := ← field f "spawn_groups" bare.spawnGroups texts?
           graphics := ← field f "has_graphics" bare.graphics flag?
           invisible := ← field f "invisible" bare.invisible flag?
           runtimeId := ← field f "runtime_identifier" bare.runtimeId (optionOf text?)
           despawnable := ← field f "despawnable" bare.despawnable flag?
           sounds := ← field f "sounds" bare.sounds sounds?
           bindings := ← field f "variables" bare.bindings variables?
           versions := ← field f "config" bare.versions versions? }

def loopState? (d : δ) : Option LoopState := do
  let f ← record? "LoopState" ["banco", "ranco", "components", "entry_commands",
    "exit_commands", "timer", "last_state", "name", "connections", "timer_state", "hp",
    "attack", "move_speed", "no_damage", "animation", "end_anim_with_state",
    "anim_blend_time", "set_properties"] d
  let bare : LoopState := {}
  return { behaviorController := ← field f "banco" bare.behaviorController (natural? .u64)
           renderController := ← field f "ranco" bare.renderController (natural? .u64)
           components := ← field f "components" bare.components (listOf component?)
           entryCommands := ← field f "entry_commands" bare.entryCommands (optionOf texts?)
           exitCommands := ← field f "exit_commands" bare.exitCommands (optionOf texts?)
           timer := ← field f "timer" bare.timer (optionOf number?)
           last := ← field f "last_state" bare.last flag?
           name := ← field f "name" bare.name (optionOf text?)
           connections := ← field f "connections" bare.connections texts?
           timerBranch := ← field f "timer_state" bare.timerBranch (optionOf text?)
           health := ← field f "hp" bare.health (optionOf (natural? .u32))
           attack := ← field f "attack" bare.attack optionalDamage?
           speed := ← field f "move_speed" bare.speed (optionOf number?)
           noDamage := ← field f "no_damage" bare.noDamage flag?
           animation := ← field f "animation" bare.animation (optionOf text?)
           animationEndsWithState :=
             ← field f "end_anim_with_state" bare.animationEndsWithState flag?
           blendTime := ← field f "anim_blend_time" bare.blendTime number?
           properties := ← field f "set_properties" bare.properties (optionOf assignments?) }

end Form
end EntityPack
