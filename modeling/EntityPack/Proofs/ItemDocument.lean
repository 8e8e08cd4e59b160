import EntityPack.Item
import EntityPack.Proofs.Entries

/-!
# Items in documents

A document holds the components of an item by kind, a later one in the place of an earlier one of
the same kind. Name and icon are written first, so components that are added for them take their
places, whereas the use component is written last and takes the place of any other.
-/
namespace EntityPack

namespace Item

def Edit.name? : Edit → Option String
  | .setName name => some name
  | _ => none

def Edit.texture? : Edit → Option String
  | .setTexture texture => some texture
  | _ => none

def Edit.components : Edit → List Component
  | .addComponent component => [component]
  | _ => []

def Edit.commands : Edit → List String
  | .addUseCommand command => [command]
  | _ => []

def made (scope name : String) (edits : List Edit) : Item := edits.foldl edit (new scope name)

def lastAdded (kind : String) (edits : List Edit) : Option Component :=
  (edits.flatMap Edit.components).reverse.find? (·.kind == kind)

def shownComponents (document : Json) : Entries Json :=
  document.fieldsAt ["minecraft:item", "components"]

def shownEvents (document : Json) : Entries Json :=
  document.fieldsAt ["minecraft:item", "events"]

def nameComponent (name : String) : Component := ⟨"display_name", [("value", .str name)]⟩

def iconComponent (texture : String) : Component := ⟨"icon", [("texture", .str texture)]⟩

variable {i : Item} {kind : String}

section Edits

variable (scope name : String) (edits : List Edit)

theorem name_made :
    (made scope name edits).name = ((edits.filterMap Edit.name?).getLast?).getD name :=
  foldl_set Item.name (fun _ change => by cases change <;> rfl) _ edits

theorem texture_made : (made scope name edits).texture =
    ((edits.filterMap Edit.texture?).getLast?).getD (idOfName name) :=
  foldl_set Item.texture (fun _ change => by cases change <;> rfl) _ edits

theorem components_made :
    (made scope name edits).components = edits.flatMap Edit.components := by
  refine foldl_add Item.components (fun i change => ?_) _ edits
  cases change with
  | addComponent component => rfl
  | _ => exact (List.append_nil _).symm

theorem useCommands_made :
    (made scope name edits).useCommands = edits.flatMap Edit.commands := by
  refine foldl_add Item.useCommands (fun i change => ?_) _ edits
  cases change with
  | addUseCommand command => rfl
  | _ => exact (List.append_nil _).symm

end Edits

structure Shown (edits : List Edit) (i : Item) (document : Json) : Prop where
  order : Entries.keys (shownComponents document) =
    "minecraft:display_name" :: "minecraft:icon" ::
      (((edits.flatMap Edit.components).map Component.id ++
        if edits.flatMap Edit.commands = [] then [] else ["minecraft:on_use"]).removeAll
          ["minecraft:display_name", "minecraft:icon"]).eraseDups
  once : (Entries.keys (shownComponents document)).Nodup
  name : Entries.get? "minecraft:display_name" (shownComponents document) =
    some ((lastAdded "display_name" edits).getD (nameComponent i.name)).payload
  icon : Entries.get? "minecraft:icon" (shownComponents document) =
    some ((lastAdded "icon" edits).getD (iconComponent i.texture)).payload
  use : edits.flatMap Edit.commands ≠ [] →
    Entries.get? "minecraft:on_use" (shownComponents document) =
      some (.obj [("on_use", .obj [("event", .str "on_use"), ("target", .str "self")])])
  events : shownEvents document =
    if edits.flatMap Edit.commands = [] then []
    else [("on_use", .obj [("run_command", .obj [
      ("command", .ofStrings (edits.flatMap Edit.commands)), ("target", .str "holder")])])]
  others : ∀ kind, kind ≠ "display_name" → kind ≠ "icon" →
    (kind = "on_use" → edits.flatMap Edit.commands = []) →
    Entries.get? ("minecraft:" ++ kind) (shownComponents document) =
      (lastAdded kind edits).map Component.payload

theorem id_beq (c : Component) (kind : String) :
    (c.id == "minecraft:" ++ kind) = (c.kind == kind) := by
  rw [Bool.eq_iff_iff, beq_iff_eq, beq_iff_eq, Component.id, String.append_right_inj]

theorem get?_shownComponents (version : String) (i : Item) (kind : String) :
    Entries.get? ("minecraft:" ++ kind) (shownComponents (i.document version)) =
      (i.allComponents.reverse.find? (·.kind == kind)).map Component.payload := by
  have hshown : Entries.get? ("minecraft:" ++ kind) (shownComponents (i.document version)) =
      (i.allComponents.reverse.find? (·.id == "minecraft:" ++ kind)).map Component.payload :=
    Entries.get?_ofList_map Component.id Component.payload i.allComponents _
  rw [hshown]
  simp only [id_beq]

theorem keys_shownComponents (version : String) (i : Item) :
    Entries.keys (shownComponents (i.document version)) =
      (i.allComponents.map Component.id).eraseDups :=
  Entries.keys_ofList_map Component.id Component.payload i.allComponents

/-- Of a kind, the use component shows first, then what was added, then name and icon. -/
theorem find?_allComponents (i : Item) (kind : String) :
    i.allComponents.reverse.find? (·.kind == kind) =
      ((if i.useCommands.isEmpty then [] else [useComponent]).find? (·.kind == kind)).or
        ((i.components.reverse.find? (·.kind == kind)).or
          ([iconComponent i.texture, nameComponent i.name].find? (·.kind == kind))) := by
  have hreverse : i.allComponents.reverse =
      (if i.useCommands.isEmpty then [] else [useComponent]) ++
        (i.components.reverse ++ [iconComponent i.texture, nameComponent i.name]) := by
    unfold allComponents
    rw [List.reverse_append, List.reverse_append]
    cases i.useCommands.isEmpty <;> rfl
  rw [hreverse, List.find?_append, List.find?_append]

theorem find?_use {kind : String} (h : kind = "on_use" → i.useCommands = []) :
    (if i.useCommands.isEmpty then [] else [useComponent]).find? (·.kind == kind) = none := by
  by_cases hempty : i.useCommands = []
  · rw [hempty]
    rfl
  · have hkind : "on_use" ≠ kind := fun heq => hempty (h heq.symm)
    cases i.useCommands.isEmpty with
    | true => rfl
    | false =>
      have hother : useComponent.kind ≠ kind := hkind
      simp [hother]

theorem ids_allComponents (i : Item) : i.allComponents.map Component.id =
    ["minecraft:display_name", "minecraft:icon"] ++ (i.components.map Component.id ++
      if i.useCommands = [] then [] else ["minecraft:on_use"]) := by
  unfold allComponents
  rw [List.map_append, List.map_append, List.append_assoc]
  cases i.useCommands <;> rfl

theorem shown_document (version : String) {edits : List Edit}
    (hcomponents : i.components = edits.flatMap Edit.components)
    (hcommands : i.useCommands = edits.flatMap Edit.commands) :
    Shown edits i (i.document version) := by
  have hlast : ∀ kind, i.components.reverse.find? (·.kind == kind) = lastAdded kind edits := by
    intro kind
    rw [hcomponents, lastAdded]
  -- What is not the use component is the last one that was added, or one of the first two.
  have hshown : ∀ kind, (kind = "on_use" → i.useCommands = []) →
      Entries.get? ("minecraft:" ++ kind) (shownComponents (i.document version)) =
        ((lastAdded kind edits).or ([iconComponent i.texture, nameComponent i.name].find?
          (·.kind == kind))).map Component.payload := by
    intro kind huse
    rw [get?_shownComponents, find?_allComponents, find?_use huse, hlast, Option.none_or]
  refine ⟨?_, Entries.nodup_keys_ofList _, ?_, ?_, ?_, ?_, ?_⟩
  · rw [keys_shownComponents, ids_allComponents, List.eraseDups_append, hcomponents, hcommands]
    rfl
  · refine (hshown "display_name" (by simp)).trans ?_
    cases lastAdded "display_name" edits <;> rfl
  · refine (hshown "icon" (by simp)).trans ?_
    cases lastAdded "icon" edits <;> rfl
  · intro huse
    refine (get?_shownComponents version i "on_use").trans ?_
    rw [find?_allComponents, hcommands, List.isEmpty_eq_false_iff.mpr huse]
    rfl
  · have hevents : shownEvents (i.document version) = i.events := rfl
    rw [hevents, events, ← hcommands]
    cases i.useCommands <;> rfl
  · intro kind hname hicon huse
    have hnone : [iconComponent i.texture, nameComponent i.name].find? (·.kind == kind) =
        none := by
      simp [iconComponent, nameComponent, Ne.symm hname, Ne.symm hicon]
    rw [hshown kind (hcommands ▸ huse), hnone, Option.or_none]

/-- A document shows the name and the icon that were set last, unless a component was added for
them, which is what it shows then. All use commands share one event, in call order, to which the use
component refers, and every other kind has one entry, at the place of the first component of that
kind and with the body of the last. -/
theorem documents_show_what_was_set (version scope name : String) (edits : List Edit) :
    (made scope name edits).name = ((edits.filterMap Edit.name?).getLast?).getD name ∧
    (made scope name edits).texture =
      ((edits.filterMap Edit.texture?).getLast?).getD (idOfName name) ∧
    Shown edits (made scope name edits) ((made scope name edits).document version) ∧
    (lastAdded "display_name" edits = none →
      Entries.get? "minecraft:display_name"
          (shownComponents ((made scope name edits).document version)) =
        some (.obj [("value", .str (made scope name edits).name)])) ∧
    (lastAdded "icon" edits = none →
      Entries.get? "minecraft:icon"
          (shownComponents ((made scope name edits).document version)) =
        some (.obj [("texture", .str (made scope name edits).texture)])) := by
  have hshown := shown_document version (components_made scope name edits)
    (useCommands_made scope name edits)
  refine ⟨name_made .., texture_made .., hshown, fun hnone => ?_, fun hnone => ?_⟩
  · rw [hshown.name, hnone]
    rfl
  · rw [hshown.icon, hnone]
    rfl

/-- A use component of the caller's comes between two components of one kind. -/
def repeatedKindEdits : List Edit := [
  .addComponent ⟨"max_stack_size", [("value", .int 1)]⟩,
  .addUseCommand "/summon dev:boss",
  .addComponent ⟨"on_use", [("on_use", .obj [("event", .str "blow")])]⟩,
  .setName "War Horn",
  .addComponent ⟨"max_stack_size", [("value", .int 16)]⟩,
  .addUseCommand "/playsound raid.horn @a"]

theorem repeated_kind_shows_what_was_set : lastAdded "display_name" repeatedKindEdits = none ∧
    Entries.get? "minecraft:display_name"
        (shownComponents ((made "dev" "Horn" repeatedKindEdits).document "1.16.100")) =
      some (.obj [("value", .str "War Horn")]) ∧
    Entries.keys (shownComponents ((made "dev" "Horn" repeatedKindEdits).document "1.16.100")) =
      ["minecraft:display_name", "minecraft:icon", "minecraft:max_stack_size",
        "minecraft:on_use"] ∧
    Entries.get? "minecraft:max_stack_size"
        (shownComponents ((made "dev" "Horn" repeatedKindEdits).document "1.16.100")) =
      some (.obj [("value", .int 16)]) ∧
    Entries.get? "minecraft:on_use"
        (shownComponents ((made "dev" "Horn" repeatedKindEdits).document "1.16.100")) =
      some (.obj [("on_use", .obj [("event", .str "on_use"), ("target", .str "self")])]) := by
  have hnone : lastAdded "display_name" repeatedKindEdits = none := rfl
  obtain ⟨-, -, hshown, hname, -⟩ :=
    documents_show_what_was_set "1.16.100" "dev" "Horn" repeatedKindEdits
  refine ⟨hnone, hname hnone, hshown.order.trans (by decide +kernel),
    hshown.others "max_stack_size" (by decide) (by decide) (by simp), ?_⟩
  exact hshown.use (by simp [repeatedKindEdits, Edit.commands])

def addedDisplayName : List Edit := [
  .addComponent ⟨"display_name", [("value", .str "Ruby")]⟩,
  .setName "Red Glass"]

/-- A component that is added for the name hides every name that is set. -/
theorem added_display_name_hides_the_name :
    (made "dev" "Glass" addedDisplayName).name = "Red Glass" ∧
    Entries.get? "minecraft:display_name"
        (shownComponents ((made "dev" "Glass" addedDisplayName).document "1.16.100")) =
      some (.obj [("value", .str "Ruby")]) := by
  exact ⟨rfl, rfl⟩

end Item
end EntityPack
