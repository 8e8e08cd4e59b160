import EntityPack.Component
import EntityPack.Identifier

/-!
# Items

A custom item type and its document. Display name and icon come first; use commands share
one event, which the use component refers to.
-/
namespace EntityPack

structure Item where
  scope : String
  id : String
  category : String := "Items"
  name : String
  texture : String
  components : List Component := []
  useCommands : List String := []
  deriving Inhabited

namespace Item

def new (scope name : String) : Item :=
  { scope, name, id := idOfName name, texture := idOfName name }

def fullId (i : Item) : String := qualify (some i.scope) i.id

inductive Edit where
  | setId (id : String)
  | setTexture (texture : String)
  | setCategory (category : String)
  | setName (name : String)
  | addComponent (component : Component)
  | addUseCommand (command : String)

/-- A new id leaves the texture as it is. -/
def edit (i : Item) : Edit → Item
  | .setId id => { i with id }
  | .setTexture texture => { i with texture }
  | .setCategory category => { i with category }
  | .setName name => { i with name }
  | .addComponent component => { i with components := i.components ++ [component] }
  | .addUseCommand command => { i with useCommands := i.useCommands ++ [command] }

def useEvent : String := "on_use"

def useComponent : Component :=
  ⟨"on_use", [("on_use", .obj [("event", .str useEvent), ("target", .str "self")])]⟩

def allComponents (i : Item) : List Component :=
  [⟨"display_name", [("value", .str i.name)]⟩, ⟨"icon", [("texture", .str i.texture)]⟩] ++
  i.components ++ if i.useCommands.isEmpty then [] else [useComponent]

def events (i : Item) : Entries Json :=
  if i.useCommands.isEmpty then []
  else [(useEvent, .obj [("run_command",
    .obj [("command", .ofStrings i.useCommands), ("target", .str "holder")])])]

def document (formatVersion : String) (i : Item) : Json :=
  .obj [("format_version", .str formatVersion),
    ("minecraft:item", .obj [
      ("description", .obj [("identifier", .str i.fullId), ("category", .str i.category)]),
      ("components", Component.objectOf i.allComponents),
      ("events", .obj i.events)])]

end Item
end EntityPack
