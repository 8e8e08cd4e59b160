import EntityPack.Animation
import EntityPack.Json.Printer

/-!
# The client entity

The look of an entity in the resource pack: model, textures, spawn egg and the controllers
that drive its animations.
-/
namespace EntityPack

def geometryPath (name : String) : String := "geometry." ++ name

def texturePath (path : String) : String := "textures/entity/" ++ path

/-- Stands in for the model of an entity that is not rendered. -/
def invisibleGeometry : String := geometryPath "humanoid"

structure ClientEntity where
  id : String
  material : String := "basic"
  renderController : String := "controller.render.default_controller"
  eggBase : String := "#550077"
  eggOverlay : String := "#88cc88"
  /-- Leaves out materials, textures and render controllers. -/
  invisible : Bool := false
  scale : Float := 1.0
  geometry : Entries String
  textures : Entries String
  animations : Entries String := []
  /-- Names that are played, each with its condition if it has one. -/
  animate : List (String × Option String) := []
  particles : Entries String := []
  setupScript : List String := []
  frameScript : List String := []
  deriving DecidableEq, Inhabited

namespace ClientEntity

def localName (id : String) : String :=
  String.ofList (id.toList.reverse.takeWhile (· != ':')).reverse

def new (id : String) : ClientEntity :=
  { id
    geometry := [("default", geometryPath (localName id))]
    textures := [("default", texturePath (localName id))] }

def setGeometry (name : String) (g : ClientEntity) : ClientEntity :=
  { g with geometry := [("default", geometryPath name)] }

def addGeometry (key name : String) (g : ClientEntity) : ClientEntity :=
  { g with geometry := g.geometry.insert key (geometryPath name) }

def setTexture (path : String) (g : ClientEntity) : ClientEntity :=
  { g with textures := [("default", texturePath path)] }

def addTexture (key path : String) (g : ClientEntity) : ClientEntity :=
  { g with textures := g.textures.insert key (texturePath path) }

def addAnimation (name id : String) (g : ClientEntity) : ClientEntity :=
  { g with animations := g.animations.insert name id }

def addAnimate (name : String) (condition : Option String) (g : ClientEntity) : ClientEntity :=
  { g with animate := g.animate ++ [(name, condition)] }

def addParticle (name effect : String) (g : ClientEntity) : ClientEntity :=
  { g with particles := g.particles.insert name effect }

def addSetup (expressions : List String) (g : ClientEntity) : ClientEntity :=
  { g with setupScript := g.setupScript ++ expressions }

def addFrame (expressions : List String) (g : ClientEntity) : ClientEntity :=
  { g with frameScript := g.frameScript ++ expressions }

/-- Gives a render controller its own id as short name and plays it. -/
def addController (id : String) (g : ClientEntity) : ClientEntity :=
  (g.addAnimation id id).addAnimate id none

/-- Renames slots and played names called `old`, and redirects slots that point at it. -/
def renameAnimation (old new : String) (g : ClientEntity) : ClientEntity :=
  let rename (text : String) := if text = old then new else text
  { g with
    animations := g.animations.map fun slot => (rename slot.1, rename slot.2)
    animate := g.animate.map fun entry => (rename entry.1, entry.2) }

inductive Edit where
  | setInvisible (on : Bool)
  | setEggColors (base overlay : String)
  | setGeometry (name : String)
  | addGeometry (key name : String)
  | setTexture (path : String)
  | addTexture (key path : String)
  | addAnimation (name id : String)
  | addAnimate (name : String) (condition : Option String)
  | addParticle (name effect : String)
  | addSetup (expressions : List String)
  | addFrame (expressions : List String)
  | addController (id : String)
  | setScale (scale : Float)
  | setMaterial (material : String)
  | setRenderController (id : String)

def edit (g : ClientEntity) : Edit → ClientEntity
  | .setInvisible on => { g with invisible := on }
  | .setEggColors base overlay => { g with eggBase := base, eggOverlay := overlay }
  | .setGeometry name => g.setGeometry name
  | .addGeometry key name => g.addGeometry key name
  | .setTexture path => g.setTexture path
  | .addTexture key path => g.addTexture key path
  | .addAnimation name id => g.addAnimation name id
  | .addAnimate name condition => g.addAnimate name condition
  | .addParticle name effect => g.addParticle name effect
  | .addSetup expressions => g.addSetup expressions
  | .addFrame expressions => g.addFrame expressions
  | .addController id => g.addController id
  | .setScale scale => { g with scale }
  | .setMaterial material => { g with material }
  | .setRenderController id => { g with renderController := id }

def slotsJson (slots : Entries String) : Json :=
  .ofFields (slots.map fun slot => (slot.1, .str slot.2))

def animateJson : String × Option String → Json
  | (name, none) => .str name
  | (name, some condition) => .obj [(name, .str condition)]

/-- The scale is written as a text, since the game reads it as an expression. -/
def scripts (g : ClientEntity) : Json :=
  .obj ([("scale", .str (Layout.label.write g.scale))] ++
    (if g.animate.isEmpty then [] else [("animate", .arr (g.animate.map animateJson))]) ++
    (if g.setupScript.isEmpty then [] else [("initialize", .ofStrings g.setupScript)]) ++
    (if g.frameScript.isEmpty then [] else [("pre_animation", .ofStrings g.frameScript)]))

def look (g : ClientEntity) : Entries Json :=
  if g.invisible then [("geometry", .obj [("default", .str invisibleGeometry)])]
  else [("materials", .obj [("default", .str g.material)]),
    ("render_controllers", .arr [.str g.renderController]),
    ("geometry", slotsJson g.geometry), ("textures", slotsJson g.textures)]

def description (g : ClientEntity) : Json :=
  .obj ([("identifier", .str g.id)] ++ g.look ++
    [("spawn_egg", .obj [("base_color", .str g.eggBase),
      ("overlay_color", .str g.eggOverlay)])] ++
    (if g.animations.isEmpty then [] else [("animations", slotsJson g.animations)]) ++
    (if g.particles.isEmpty then [] else [("particle_effects", slotsJson g.particles)]) ++
    [("scripts", g.scripts)])

def document (formatVersion : String) (g : ClientEntity) : Json :=
  .obj [("format_version", .str formatVersion),
    ("minecraft:client_entity", .obj [("description", g.description)])]

end ClientEntity
end EntityPack
