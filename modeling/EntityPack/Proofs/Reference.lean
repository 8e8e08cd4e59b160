import EntityPack.Entity.Assembly
import Mathlib.Data.List.Forall2

/-!
# Documents that differ in their references

One document is another rewritten along a relation `R` if `R` relates what stands at every position
of an id and nothing else differs, save for the wording of commands and of conditions. A walk that
applies a function to ids rewrites along its graph, and two walks in a row are one walk with the
composed functions.
-/
namespace EntityPack

namespace Randomizer

def references (r : Randomizer) : List String := r.add.getD [] ++ r.remove.getD []

structure Rewritten (R : String → String → Prop) (r r' : Randomizer) : Prop where
  rest : r' = { r with add := r'.add, remove := r'.remove }
  add : Option.Rel (List.Forall₂ R) r.add r'.add
  remove : Option.Rel (List.Forall₂ R) r.remove r'.remove

end Randomizer

namespace Event

mutual
/-- Every group id and event id of an event, those of its sub-events last. -/
def references : Event → List String
  | ⟨_, _, add, remove, _, randomizers, sequential, next⟩ =>
    add ++ remove ++ randomizers.flatMap Randomizer.references ++ next.toList ++
      allReferences sequential
def allReferences : List Event → List String
  | [] => []
  | e :: rest => e.references ++ allReferences rest
end

inductive Rewritten (R : String → String → Prop) : Event → Event → Prop where
  | mk {id scope add add' remove remove' properties randomizers randomizers' sequential
      sequential' next next'} :
      List.Forall₂ R add add' → List.Forall₂ R remove remove' →
      List.Forall₂ (Randomizer.Rewritten R) randomizers randomizers' →
      List.Forall₂ (Rewritten R) sequential sequential' → Option.Rel R next next' →
      Rewritten R ⟨id, scope, add, remove, properties, randomizers, sequential, next⟩
        ⟨id, scope, add', remove', properties, randomizers', sequential', next'⟩

end Event

namespace Json

mutual
def texts : Json → List String
  | .null | .bool _ | .int _ | .float _ => []
  | .str text => [text]
  | .arr items => textsOfItems items
  | .obj fields => textsOfFields fields
def textsOfItems : List Json → List String
  | [] => []
  | value :: rest => value.texts ++ textsOfItems rest
def textsOfFields : List (String × Json) → List String
  | [] => []
  | (_, value) :: rest => value.texts ++ textsOfFields rest
end

mutual
inductive Rewritten (R : String → String → Prop) : Json → Json → Prop where
  | null : Rewritten R .null .null
  | bool (value) : Rewritten R (.bool value) (.bool value)
  | int (value) : Rewritten R (.int value) (.int value)
  | float (value) : Rewritten R (.float value) (.float value)
  | str {text text'} : R text text' → Rewritten R (.str text) (.str text')
  | arr {items items'} : List.Forall₂ (Rewritten R) items items' →
      Rewritten R (.arr items) (.arr items')
  | obj {fields fields'} : FieldsRewritten R fields fields' →
      Rewritten R (.obj fields) (.obj fields')
inductive FieldsRewritten (R : String → String → Prop) :
    List (String × Json) → List (String × Json) → Prop where
  | nil : FieldsRewritten R [] []
  | cons (key) {value value' rest rest'} : Rewritten R value value' →
      FieldsRewritten R rest rest' →
      FieldsRewritten R ((key, value) :: rest) ((key, value') :: rest')
end

end Json

structure Component.Rewritten (R : String → String → Prop) (c c' : Component) : Prop where
  kind : c'.kind = c.kind
  body : Json.FieldsRewritten R c.body c'.body

structure ComponentGroup.Rewritten (R : String → String → Prop) (g g' : ComponentGroup) :
    Prop where
  rest : g' = { g with components := g'.components }
  components : List.Forall₂ (Component.Rewritten R) g.components g'.components

structure Animation.Reworded (a a' : Animation) : Prop where
  rest : a' = { a with timeline := a'.timeline }
  timeline : List.Forall₂ (fun item item' => item'.time = item.time ∧
    item'.commands.length = item.commands.length) a.timeline a'.timeline

structure Controller.State.Rewritten (R : String → String → Prop) (s s' : Controller.State) :
    Prop where
  rest : s' = { s with
    transitions := s'.transitions, onEntry := s'.onEntry, onExit := s'.onExit }
  targets : List.Forall₂ (fun t t' => R t.1 t'.1) s.transitions s'.transitions
  entry_commands : s'.onEntry.length = s.onEntry.length
  exit_commands : s'.onExit.length = s.onExit.length

structure Controller.Rewritten (R : String → String → Prop) (c c' : Controller) : Prop where
  rest : c' = { c with states := c'.states }
  states : List.Forall₂ (Controller.State.Rewritten R) c.states c'.states

def Controller.references (c : Controller) : List String :=
  c.states.flatMap fun s => s.transitions.map Prod.fst

namespace Behavior

def references (b : Behavior) : List String :=
  b.events.flatMap Event.references ++ b.spawnSequential.flatMap Event.references ++
  b.spawnGroups ++ b.spawnRandomizers.flatMap Randomizer.references ++
  b.components.flatMap (fun c => Json.textsOfFields c.body) ++
  b.groups.flatMap (fun g => g.components.flatMap fun c => Json.textsOfFields c.body)

structure Rewritten (R : String → String → Prop) (b b' : Behavior) : Prop where
  rest : b' = { b with
    animations := b'.animations, components := b'.components, groups := b'.groups
    events := b'.events, spawnGroups := b'.spawnGroups
    spawnRandomizers := b'.spawnRandomizers, spawnSequential := b'.spawnSequential }
  animations : List.Forall₂ Animation.Reworded b.animations b'.animations
  components : List.Forall₂ (Component.Rewritten R) b.components b'.components
  groups : List.Forall₂ (ComponentGroup.Rewritten R) b.groups b'.groups
  events : List.Forall₂ (Event.Rewritten R) b.events b'.events
  spawn_groups : List.Forall₂ R b.spawnGroups b'.spawnGroups
  spawn_randomizers :
    List.Forall₂ (Randomizer.Rewritten R) b.spawnRandomizers b'.spawnRandomizers
  spawn_sequential : List.Forall₂ (Event.Rewritten R) b.spawnSequential b'.spawnSequential

end Behavior

namespace Entity

/-- What stands at the positions of ids in all documents of an entity. -/
def references (e : Entity) : List String :=
  e.behavior.references ++ e.behaviorControllers.flatMap Controller.references ++
  e.renderControllers.flatMap Controller.references

structure Rewritten (R : String → String → Prop) (e e' : Entity) : Prop where
  rest : e' = { e with
    behavior := e'.behavior, behaviorControllers := e'.behaviorControllers
    renderControllers := e'.renderControllers }
  behavior : e.behavior.Rewritten R e'.behavior
  behavior_controllers :
    List.Forall₂ (Controller.Rewritten R) e.behaviorControllers e'.behaviorControllers
  render_controllers :
    List.Forall₂ (Controller.Rewritten R) e.renderControllers e'.renderControllers

end Entity

variable {R : String → String → Prop} {f : String → String}

theorem forall₂_map_self {α : Type} {R : α → α → Prop} {f : α → α} (hf : ∀ a, R a (f a))
    (as : List α) : List.Forall₂ R as (as.map f) :=
  List.forall₂_map_right_iff.mpr (List.forall₂_same.mpr fun a _ => hf a)

theorem rel_map_self {α : Type} {S : α → α → Prop} {g : α → α} (hg : ∀ a, S a (g a))
    (o : Option α) : Option.Rel S o (o.map g) := by
  cases o with
  | none => exact .none
  | some a => exact .some (hg a)

namespace Randomizer

theorem rewritten_map (hf : ∀ id, R id (f id)) (r : Randomizer) :
    r.Rewritten R (r.mapReferences f) where
  rest := rfl
  add := rel_map_self (forall₂_map_self hf) r.add
  remove := rel_map_self (forall₂_map_self hf) r.remove

end Randomizer

namespace Event

mutual
theorem rewritten_map (hf : ∀ id, R id (f id)) : ∀ ev : Event, ev.Rewritten R (ev.mapReferences f)
  | ⟨_, _, add, remove, _, randomizers, sequential, next⟩ =>
    .mk (forall₂_map_self hf add) (forall₂_map_self hf remove)
      (forall₂_map_self (Randomizer.rewritten_map hf) randomizers)
      (all_rewritten_map hf sequential) (rel_map_self hf next)
theorem all_rewritten_map (hf : ∀ id, R id (f id)) :
    ∀ evs : List Event, List.Forall₂ (Rewritten R) evs (mapAllReferences f evs)
  | [] => .nil
  | ev :: evs => .cons (rewritten_map hf ev) (all_rewritten_map hf evs)
end

end Event

namespace Json

mutual
theorem rewritten_map (hf : ∀ text, R text (f text)) : ∀ v : Json, v.Rewritten R (v.mapText f)
  | .null => .null
  | .bool value => .bool value
  | .int value => .int value
  | .float value => .float value
  | .str text => .str (hf text)
  | .arr items => .arr (items_rewritten_map hf items)
  | .obj fields => .obj (fields_rewritten_map hf fields)
theorem items_rewritten_map (hf : ∀ text, R text (f text)) :
    ∀ items : List Json, List.Forall₂ (Rewritten R) items (mapTextItems f items)
  | [] => .nil
  | value :: rest => .cons (rewritten_map hf value) (items_rewritten_map hf rest)
theorem fields_rewritten_map (hf : ∀ text, R text (f text)) :
    ∀ fields : List (String × Json), FieldsRewritten R fields (mapTextFields f fields)
  | [] => .nil
  | (key, value) :: rest => .cons key (rewritten_map hf value) (fields_rewritten_map hf rest)
end

end Json

theorem Component.rewritten_map (hf : ∀ text, R text (f text)) (c : Component) :
    c.Rewritten R (c.mapText f) :=
  ⟨rfl, Json.fields_rewritten_map hf c.body⟩

theorem ComponentGroup.rewritten_map (hf : ∀ text, R text (f text)) (g : ComponentGroup) :
    g.Rewritten R (g.mapText f) :=
  ⟨rfl, forall₂_map_self (Component.rewritten_map hf) g.components⟩

theorem Animation.reworded_map (f : String → String) (a : Animation) :
    a.Reworded (a.mapCommands f) := by
  refine ⟨rfl, forall₂_map_self ?_ a.timeline⟩
  exact fun item => ⟨rfl, List.length_map f⟩

/-- Ids are rewritten by `f`, conditions and commands by `g`. -/
def Controller.State.rewrite (f g : String → String) (s : Controller.State) :
    Controller.State :=
  { s with
    transitions := s.transitions.map fun t => (f t.1, g t.2)
    onEntry := s.onEntry.map g
    onExit := s.onExit.map g }

def Controller.rewrite (f g : String → String) (c : Controller) : Controller :=
  { c with states := c.states.map (·.rewrite f g) }

def Behavior.rewrite (f g : String → String) (b : Behavior) : Behavior :=
  { b with
    events := b.events.map (·.mapReferences f)
    spawnSequential := b.spawnSequential.map (·.mapReferences f)
    spawnGroups := b.spawnGroups.map f
    spawnRandomizers := b.spawnRandomizers.map (·.mapReferences f)
    components := b.components.map (·.mapText f)
    groups := b.groups.map (·.mapText f)
    animations := b.animations.map (·.mapCommands g) }

def Entity.rewrite (f g : String → String) (e : Entity) : Entity :=
  { e with
    behavior := e.behavior.rewrite f g
    behaviorControllers := e.behaviorControllers.map (·.rewrite f g)
    renderControllers := e.renderControllers.map (·.rewrite f g) }

variable {g : String → String}

theorem Controller.rewritten_rewrite (hf : ∀ id, R id (f id)) (c : Controller) :
    c.Rewritten R (c.rewrite f g) := by
  refine ⟨rfl, forall₂_map_self ?_ c.states⟩
  intro s
  refine ⟨rfl, ?_, List.length_map _, List.length_map _⟩
  exact List.forall₂_map_right_iff.mpr (List.forall₂_same.mpr fun t _ => hf t.1)

theorem Behavior.rewritten_rewrite (hf : ∀ id, R id (f id)) (b : Behavior) :
    b.Rewritten R (b.rewrite f g) where
  rest := rfl
  animations := forall₂_map_self (Animation.reworded_map _) b.animations
  components := forall₂_map_self (Component.rewritten_map hf) b.components
  groups := forall₂_map_self (ComponentGroup.rewritten_map hf) b.groups
  events := forall₂_map_self (Event.rewritten_map hf) b.events
  spawn_groups := forall₂_map_self hf b.spawnGroups
  spawn_randomizers := forall₂_map_self (Randomizer.rewritten_map hf) b.spawnRandomizers
  spawn_sequential := forall₂_map_self (Event.rewritten_map hf) b.spawnSequential

theorem Entity.rewritten_rewrite (hf : ∀ id, R id (f id)) (e : Entity) :
    e.Rewritten R (e.rewrite f g) where
  rest := rfl
  behavior := Behavior.rewritten_rewrite hf _
  behavior_controllers := forall₂_map_self (Controller.rewritten_rewrite hf) _
  render_controllers := forall₂_map_self (Controller.rewritten_rewrite hf) _

def Entity.stitched (branches : List ResolvedBranch) (e : Entity) : Entity :=
  { e with behavior := Branch.stitchAll branches e.behavior }

theorem Entity.withResolved_eq (branches : List ResolvedBranch) (e : Entity) :
    e.withResolved branches = (e.stitched branches).rewrite (Branch.substituteId branches)
      (Branch.substituteText branches) := rfl

theorem Randomizer.Rewritten.references {r r' : Randomizer} (h : r.Rewritten R r') :
    List.Forall₂ R r.references r'.references := by
  have hlist : ∀ {o o' : Option (List String)}, Option.Rel (List.Forall₂ R) o o' →
      List.Forall₂ R (o.getD []) (o'.getD []) := by
    intro o o' ho
    cases ho with
    | none => exact .nil
    | some hids => exact hids
  exact List.rel_append (hlist h.add) (hlist h.remove)

namespace Event

mutual
theorem Rewritten.references : ∀ {ev ev' : Event}, ev.Rewritten R ev' →
    List.Forall₂ R ev.references ev'.references
  | ⟨_, _, _, _, _, _, _, _⟩, _, .mk hadd hremove hrandomizers hsequential hnext => by
    refine List.rel_append (List.rel_append (List.rel_append (List.rel_append hadd hremove)
      (List.rel_flatMap hrandomizers fun _ _ => Randomizer.Rewritten.references)) ?_)
      (Rewritten.allReferences hsequential)
    cases hnext with
    | none => exact .nil
    | some hid => exact .cons hid .nil
theorem Rewritten.allReferences : ∀ {evs evs' : List Event},
    List.Forall₂ (Rewritten R) evs evs' →
    List.Forall₂ R (Event.allReferences evs) (Event.allReferences evs')
  | [], _, .nil => .nil
  | _ :: _, _, .cons hev hevs =>
    List.rel_append (Rewritten.references hev) (Rewritten.allReferences hevs)
end

end Event

namespace Json

mutual
theorem Rewritten.texts : ∀ {v v' : Json}, v.Rewritten R v' → List.Forall₂ R v.texts v'.texts
  | .null, _, .null => .nil
  | .bool _, _, .bool _ => .nil
  | .int _, _, .int _ => .nil
  | .float _, _, .float _ => .nil
  | .str _, _, .str htext => .cons htext .nil
  | .arr _, _, .arr hitems => Rewritten.textsOfItems hitems
  | .obj _, _, .obj hfields => FieldsRewritten.texts hfields
theorem Rewritten.textsOfItems : ∀ {items items' : List Json},
    List.Forall₂ (Rewritten R) items items' →
    List.Forall₂ R (Json.textsOfItems items) (Json.textsOfItems items')
  | [], _, .nil => .nil
  | _ :: _, _, .cons hvalue hrest =>
    List.rel_append (Rewritten.texts hvalue) (Rewritten.textsOfItems hrest)
theorem FieldsRewritten.texts : ∀ {fields fields' : List (String × Json)},
    FieldsRewritten R fields fields' →
    List.Forall₂ R (Json.textsOfFields fields) (Json.textsOfFields fields')
  | [], _, .nil => .nil
  | (_, _) :: _, _, .cons _ hvalue hrest =>
    List.rel_append (Rewritten.texts hvalue) (FieldsRewritten.texts hrest)
end

end Json

theorem Controller.Rewritten.references {c c' : Controller} (h : c.Rewritten R c') :
    List.Forall₂ R c.references c'.references := by
  refine List.rel_flatMap h.states fun s s' hs => ?_
  simpa using hs.targets

theorem Behavior.Rewritten.references {b b' : Behavior} (h : b.Rewritten R b') :
    List.Forall₂ R b.references b'.references := by
  have hbodies : ∀ {cs cs' : List Component}, List.Forall₂ (Component.Rewritten R) cs cs' →
      List.Forall₂ R (cs.flatMap fun c => Json.textsOfFields c.body)
        (cs'.flatMap fun c => Json.textsOfFields c.body) :=
    fun h => List.rel_flatMap h fun _ _ hc => hc.body.texts
  have hevents := List.rel_flatMap h.events fun _ _ => Event.Rewritten.references
  have hsequential := List.rel_flatMap h.spawn_sequential fun _ _ => Event.Rewritten.references
  have hrandomizers :=
    List.rel_flatMap h.spawn_randomizers fun _ _ => Randomizer.Rewritten.references
  have hgroups := List.rel_flatMap h.groups fun _ _ hg => hbodies hg.components
  exact List.rel_append (List.rel_append (List.rel_append (List.rel_append
    (List.rel_append hevents hsequential) h.spawn_groups) hrandomizers)
    (hbodies h.components)) hgroups

theorem Entity.Rewritten.references {e e' : Entity} (h : e.Rewritten R e') :
    List.Forall₂ R e.references e'.references :=
  List.rel_append (List.rel_append h.behavior.references
    (List.rel_flatMap h.behavior_controllers fun _ _ => Controller.Rewritten.references))
    (List.rel_flatMap h.render_controllers fun _ _ => Controller.Rewritten.references)

namespace Event

theorem fullId_mapReferences (f : String → String) (ev : Event) :
    (ev.mapReferences f).fullId = ev.fullId := by
  cases ev
  rfl

theorem add_mapReferences (f : String → String) (ev : Event) :
    (ev.mapReferences f).add = ev.add.map f := by
  cases ev
  rfl

theorem remove_mapReferences (f : String → String) (ev : Event) :
    (ev.mapReferences f).remove = ev.remove.map f := by
  cases ev
  rfl

end Event

theorem Randomizer.mapReferences_id (r : Randomizer) : r.mapReferences (fun id => id) = r := by
  simp [mapReferences]

mutual
theorem Event.mapReferences_id : ∀ ev : Event, ev.mapReferences (fun id => id) = ev
  | ⟨_, _, _, _, _, _, sequential, _⟩ => by
    simp [Event.mapReferences, Randomizer.mapReferences_id, mapAllReferences_id sequential]
theorem Event.mapAllReferences_id : ∀ evs : List Event,
    Event.mapAllReferences (fun id => id) evs = evs
  | [] => rfl
  | ev :: evs => by
    rw [Event.mapAllReferences, Event.mapReferences_id ev, Event.mapAllReferences_id evs]
end

mutual
theorem Json.mapText_id : ∀ v : Json, v.mapText (fun text => text) = v
  | .null | .bool _ | .int _ | .float _ | .str _ => rfl
  | .arr items => by rw [Json.mapText, Json.mapTextItems_id items]
  | .obj fields => by rw [Json.mapText, Json.mapTextFields_id fields]
theorem Json.mapTextItems_id : ∀ items : List Json,
    Json.mapTextItems (fun text => text) items = items
  | [] => rfl
  | value :: rest => by
    rw [Json.mapTextItems, Json.mapText_id value, Json.mapTextItems_id rest]
theorem Json.mapTextFields_id : ∀ fields : List (String × Json),
    Json.mapTextFields (fun text => text) fields = fields
  | [] => rfl
  | (key, value) :: rest => by
    rw [Json.mapTextFields, Json.mapText_id value, Json.mapTextFields_id rest]
end

theorem Component.mapText_id (c : Component) : c.mapText (fun text => text) = c := by
  rw [mapText, Json.mapTextFields_id]

theorem ComponentGroup.mapText_id (g : ComponentGroup) : g.mapText (fun text => text) = g := by
  rw [mapText, List.map_id'' Component.mapText_id]

theorem Animation.mapCommands_id (a : Animation) : a.mapCommands (fun text => text) = a := by
  simp [mapCommands]

namespace Branch

theorem substituteId_nil_eq : substituteId [] = fun id => id := rfl

theorem substituteText_nil_eq : substituteText [] = fun text => text := rfl

theorem resolveBehavior_nil (b : Behavior) : resolveBehavior [] b = b := by
  simp only [resolveBehavior, substituteId_nil_eq, substituteText_nil_eq, List.map_id',
    List.map_id'' Event.mapReferences_id, List.map_id'' Randomizer.mapReferences_id,
    List.map_id'' Component.mapText_id, List.map_id'' ComponentGroup.mapText_id,
    List.map_id'' Animation.mapCommands_id]

theorem resolveController_nil (c : Controller) : resolveController [] c = c := by
  have hstate : ∀ s : Controller.State, resolveState [] s = s := by
    intro s
    simp [resolveState, substituteId_nil_eq, substituteText_nil_eq]
  rw [resolveController, List.map_id'' hstate]

end Branch

theorem Entity.withResolved_nil (e : Entity) : e.withResolved [] = e := by
  rw [withResolved, Branch.resolveBehavior_nil, List.map_id'' Branch.resolveController_nil,
    List.map_id'' Branch.resolveController_nil]
  rfl

section

variable (f g f' g' : String → String)

@[simp] theorem Randomizer.mapReferences_mapReferences (r : Randomizer) :
    (r.mapReferences f).mapReferences f' = r.mapReferences (f' ∘ f) := by
  simp [mapReferences, Function.comp_def]

mutual
@[simp] theorem Event.mapReferences_mapReferences :
    ∀ ev : Event, (ev.mapReferences f).mapReferences f' = ev.mapReferences (f' ∘ f)
  | ⟨_, _, _, _, _, _, sequential, _⟩ => by
    simp [Event.mapReferences, mapAllReferences_mapAllReferences sequential,
      Randomizer.mapReferences_mapReferences, Function.comp_def]
@[simp] theorem Event.mapAllReferences_mapAllReferences : ∀ evs : List Event,
    Event.mapAllReferences f' (Event.mapAllReferences f evs) =
      Event.mapAllReferences (f' ∘ f) evs
  | [] => rfl
  | ev :: evs => by
    simp only [Event.mapAllReferences, Event.mapReferences_mapReferences ev,
      Event.mapAllReferences_mapAllReferences evs]
end

mutual
@[simp] theorem Json.mapText_mapText : ∀ v : Json, (v.mapText f).mapText f' = v.mapText (f' ∘ f)
  | .null | .bool _ | .int _ | .float _ | .str _ => rfl
  | .arr items => by simp only [Json.mapText, Json.mapTextItems_mapTextItems items]
  | .obj fields => by simp only [Json.mapText, Json.mapTextFields_mapTextFields fields]
@[simp] theorem Json.mapTextItems_mapTextItems : ∀ items : List Json,
    Json.mapTextItems f' (Json.mapTextItems f items) = Json.mapTextItems (f' ∘ f) items
  | [] => rfl
  | value :: rest => by
    simp only [Json.mapTextItems, Json.mapText_mapText value,
      Json.mapTextItems_mapTextItems rest]
@[simp] theorem Json.mapTextFields_mapTextFields : ∀ fields : List (String × Json),
    Json.mapTextFields f' (Json.mapTextFields f fields) = Json.mapTextFields (f' ∘ f) fields
  | [] => rfl
  | (key, value) :: rest => by
    simp only [Json.mapTextFields, Json.mapText_mapText value,
      Json.mapTextFields_mapTextFields rest]
end

@[simp] theorem Component.mapText_mapText (c : Component) :
    (c.mapText f).mapText f' = c.mapText (f' ∘ f) := by
  simp only [mapText, Json.mapTextFields_mapTextFields]

@[simp] theorem ComponentGroup.mapText_mapText (group : ComponentGroup) :
    (group.mapText f).mapText f' = group.mapText (f' ∘ f) := by
  simp [mapText, Function.comp_def]

@[simp] theorem Animation.mapCommands_mapCommands (a : Animation) :
    (a.mapCommands g).mapCommands g' = a.mapCommands (g' ∘ g) := by
  simp [mapCommands]

@[simp] theorem Controller.rewrite_rewrite (c : Controller) :
    (c.rewrite f g).rewrite f' g' = c.rewrite (f' ∘ f) (g' ∘ g) := by
  simp [rewrite, State.rewrite, Function.comp_def]

@[simp] theorem Behavior.rewrite_rewrite (b : Behavior) :
    (b.rewrite f g).rewrite f' g' = b.rewrite (f' ∘ f) (g' ∘ g) := by
  simp [rewrite, Function.comp_def]

@[simp] theorem Entity.rewrite_rewrite (e : Entity) :
    (e.rewrite f g).rewrite f' g' = e.rewrite (f' ∘ f) (g' ∘ g) := by
  simp [rewrite, Function.comp_def]

end

end EntityPack
