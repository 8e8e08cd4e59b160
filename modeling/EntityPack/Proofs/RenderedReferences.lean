import EntityPack.Proofs.EventLayers

/-!
# References in the objects of events

What a walk over an event does to its references is what it does to the object of the event:
the items of every list of component groups and the event of every trigger are replaced, in all
layers, and all else stays. Names and values of assigned properties are no references, whatever
they are called.
-/
namespace EntityPack

namespace Json

def mapOwnText (f : String → String) : Json → Json
  | .str text => .str (f text)
  | value => value

def mapGroups (f : String → String) : Json → Json
  | .arr items => .arr (items.map (mapOwnText f))
  | value => value

def mapTriggered (f : String → String) : Json → Json
  | .obj fields => .obj (fields.map fun field =>
      if field.1 = "event" then (field.1, field.2.mapOwnText f) else field)
  | value => value

mutual
/-- Applies `f` to every component group and every triggered event below a value. -/
def mapReferences (f : String → String) : Json → Json
  | .null => .null
  | .bool value => .bool value
  | .int value => .int value
  | .float value => .float value
  | .str text => .str text
  | .arr items => .arr (mapItemReferences f items)
  | .obj fields => .obj (mapFieldReferences f fields)
def mapItemReferences (f : String → String) : List Json → List Json
  | [] => []
  | value :: rest => value.mapReferences f :: mapItemReferences f rest
def mapFieldReferences (f : String → String) : List (String × Json) → List (String × Json)
  | [] => []
  | (key, value) :: rest =>
    (key, if key = "component_groups" then value.mapGroups f
      else if key = "trigger" then value.mapTriggered f
      else value.mapReferences f) :: mapFieldReferences f rest
end

def groups : Json → List String
  | .arr items => items.filterMap text?
  | _ => []

def triggered (value : Json) : List String := ((value.get? "event").bind text?).toList

mutual
def references : Json → List String
  | .null | .bool _ | .int _ | .float _ | .str _ => []
  | .arr items => itemReferences items
  | .obj fields => fieldReferences fields
def itemReferences : List Json → List String
  | [] => []
  | value :: rest => value.references ++ itemReferences rest
def fieldReferences : List (String × Json) → List String
  | [] => []
  | (key, value) :: rest =>
    (if key = "component_groups" then value.groups
      else if key = "trigger" then value.triggered
      else value.references) ++ fieldReferences rest
end

variable (f : String → String)

theorem mapItemReferences_eq_map (items : List Json) :
    mapItemReferences f items = items.map (mapReferences f) := by
  induction items with
  | nil => rfl
  | cons value rest ih => rw [mapItemReferences, ih, List.map_cons]

theorem mapFieldReferences_append (fields fields' : List (String × Json)) :
    mapFieldReferences f (fields ++ fields') =
      mapFieldReferences f fields ++ mapFieldReferences f fields' := by
  induction fields with
  | nil => rfl
  | cons field rest ih =>
    rw [List.cons_append, mapFieldReferences, ih, mapFieldReferences, List.cons_append]

theorem mapFieldReferences_of_other {fields : List (String × Json)}
    (h : ∀ field ∈ fields, field.1 ≠ "component_groups" ∧ field.1 ≠ "trigger") :
    mapFieldReferences f fields = fields.map fun field => (field.1, field.2.mapReferences f) := by
  induction fields with
  | nil => rfl
  | cons field rest ih =>
    obtain ⟨hgroups, htrigger⟩ := h field (List.mem_cons_self ..)
    rw [mapFieldReferences, if_neg hgroups, if_neg htrigger,
      ih fun field hm => h field (List.mem_cons_of_mem _ hm), List.map_cons]

theorem itemReferences_eq_flatMap (items : List Json) :
    itemReferences items = items.flatMap references := by
  induction items with
  | nil => rfl
  | cons value rest ih => rw [itemReferences, ih, List.flatMap_cons]

theorem fieldReferences_append (fields fields' : List (String × Json)) :
    fieldReferences (fields ++ fields') = fieldReferences fields ++ fieldReferences fields' := by
  induction fields with
  | nil => rfl
  | cons field rest ih =>
    rw [List.cons_append, fieldReferences, ih, fieldReferences, List.append_assoc]

theorem fieldReferences_of_other {fields : List (String × Json)}
    (h : ∀ field ∈ fields, field.1 ≠ "component_groups" ∧ field.1 ≠ "trigger") :
    fieldReferences fields = fields.flatMap fun field => field.2.references := by
  induction fields with
  | nil => rfl
  | cons field rest ih =>
    obtain ⟨hgroups, htrigger⟩ := h field (List.mem_cons_self ..)
    rw [fieldReferences, if_neg hgroups, if_neg htrigger,
      ih fun field hm => h field (List.mem_cons_of_mem _ hm), List.flatMap_cons]

end Json

section
variable (f : String → String)

theorem mapReferences_groupsJson (groups : List String) :
    (groupsJson groups).mapReferences f = groupsJson (groups.map f) := by
  simp [groupsJson, Json.ofStrings, Json.mapReferences, Json.mapFieldReferences, Json.mapGroups,
    Json.mapOwnText]

theorem references_groupsJson (groups : List String) : (groupsJson groups).references = groups := by
  have htext : ∀ group, (Json.str group).text? = some group := fun _ => rfl
  simp [groupsJson, Json.ofStrings, Json.references, Json.fieldReferences, Json.groups, htext]

theorem PropertyValue.without_references (value : PropertyValue) :
    value.toJson.references = [] ∧ ∀ f, value.toJson.mapReferences f = value.toJson := by
  cases value with
  | float value =>
    have hplain : (float value).toJson = .float value ∨ (float value).toJson = .null := by
      unfold toJson Json.ofFloat
      by_cases h : value.isFinite <;> simp [h]
    rcases hplain with h | h
    · rw [h]
      exact ⟨rfl, fun _ => rfl⟩
    · rw [h]
      exact ⟨rfl, fun _ => rfl⟩
  | _ => exact ⟨rfl, fun _ => rfl⟩

theorem propertyKey_ne {name : String} (h : name.toList.head? ≠ some 'p') (id : String) :
    propertyKey id ≠ name := by
  rintro rfl
  simp [propertyKey] at h

/-- Assigned values are plain, and the name of a property is never that of a reference. -/
theorem Assignments.without_references (p : Assignments) :
    p.toJson.references = [] ∧ ∀ f, p.toJson.mapReferences f = p.toJson := by
  have hfields : ∀ field ∈
      Entries.ofList (p.map fun entry => (propertyKey entry.1, entry.2.toJson)),
      ∃ id value, field = (propertyKey id, PropertyValue.toJson value) := by
    intro field hfield
    obtain ⟨entry, -, rfl⟩ := List.mem_map.mp (Entries.mem_of_mem_ofList hfield)
    exact ⟨entry.1, entry.2, rfl⟩
  unfold Assignments.toJson Json.ofFields
  generalize Entries.ofList _ = fields at hfields
  have hother : ∀ field ∈ fields, field.1 ≠ "component_groups" ∧ field.1 ≠ "trigger" := by
    intro field hm
    obtain ⟨id, value, rfl⟩ := hfields field hm
    exact ⟨propertyKey_ne (by decide) id, propertyKey_ne (by decide) id⟩
  constructor
  · rw [Json.references, Json.fieldReferences_of_other hother]
    refine List.flatMap_eq_nil_iff.mpr fun field hm => ?_
    obtain ⟨id, value, rfl⟩ := hfields field hm
    exact value.without_references.1
  · intro f
    rw [Json.mapReferences, Json.mapFieldReferences_of_other f hother]
    refine congrArg Json.obj ((List.map_congr_left fun field hm => ?_).trans (List.map_id _))
    obtain ⟨id, value, rfl⟩ := hfields field hm
    rw [value.without_references.2, id_eq]

namespace Randomizer

theorem toJson_mapReferences (r : Randomizer) :
    (r.mapReferences f).toJson = r.toJson.mapReferences f := by
  obtain ⟨weight, add, remove, properties⟩ := r
  cases add <;> cases remove <;> cases properties <;>
    simp [toJson, mapReferences, Json.mapReferences, Json.mapFieldReferences, Json.ofNat,
      mapReferences_groupsJson, Assignments.without_references]

theorem references_toJson (r : Randomizer) : r.toJson.references = r.references := by
  obtain ⟨weight, add, remove, properties⟩ := r
  cases add <;> cases remove <;> cases properties <;>
    simp [toJson, references, Json.references, Json.fieldReferences, Json.ofNat,
      references_groupsJson, (Assignments.without_references _).1]

theorem mapReferences_congr {f g : String → String} (r : Randomizer)
    (h : ∀ id ∈ r.references, f id = g id) : r.mapReferences f = r.mapReferences g := by
  obtain ⟨weight, add, remove, properties⟩ := r
  have hgroups : ∀ groups : Option (List String), (∀ id ∈ groups.getD [], f id = g id) →
      groups.map (·.map f) = groups.map (·.map g) := by
    rintro (_ | groups) hgroups
    · rfl
    · exact congrArg some (List.map_congr_left hgroups)
  rw [mapReferences, mapReferences, hgroups add fun id hid => h id (List.mem_append_left _ hid),
    hgroups remove fun id hid => h id (List.mem_append_right _ hid)]

end Randomizer

namespace Event

theorem mapFieldReferences_primary (add remove : List String) (p : Assignments) :
    Json.mapFieldReferences f (primary add remove p) = primary (add.map f) (remove.map f) p := by
  have hp := p.without_references.2 f
  unfold primary
  rw [List.isEmpty_map, List.isEmpty_map]
  cases add.isEmpty <;> cases remove.isEmpty <;> cases p.isEmpty <;>
    simp [Json.mapFieldReferences, mapReferences_groupsJson, hp]

theorem fieldReferences_primary (add remove : List String) (p : Assignments) :
    Json.fieldReferences (primary add remove p) = add ++ remove := by
  have hp := p.without_references.1
  unfold primary
  cases add <;> cases remove <;> cases p.isEmpty <;>
    simp [Json.fieldReferences, references_groupsJson, hp]

theorem mapReferences_choice (rs : List Randomizer) :
    (choice rs).mapReferences f = choice (rs.map (·.mapReferences f)) := by
  simp [choice, Json.mapReferences, Json.mapFieldReferences, Json.mapItemReferences_eq_map,
    Randomizer.toJson_mapReferences, Function.comp_def]

theorem references_choice (rs : List Randomizer) :
    (choice rs).references = rs.flatMap Randomizer.references := by
  simp [choice, Json.references, Json.fieldReferences, Json.itemReferences_eq_flatMap,
    List.flatMap_map, Randomizer.references_toJson]

theorem mapReferences_steps (parts : Entries Json) :
    (parts.map fun part => Json.obj [part]).map (Json.mapReferences f) =
      (Json.mapFieldReferences f parts).map fun part => .obj [part] := by
  induction parts with
  | nil => rfl
  | cons part parts ih => simp [Json.mapReferences, Json.mapFieldReferences, ih]

theorem references_steps (parts : Entries Json) :
    (parts.map fun part => Json.obj [part]).flatMap Json.references =
      Json.fieldReferences parts := by
  induction parts with
  | nil => rfl
  | cons part parts ih => simp [Json.references, Json.fieldReferences, ih]

theorem mapFieldReferences_sequence (steps : List Json) :
    Json.mapFieldReferences f [("sequence", .arr steps)] =
      [("sequence", .arr (steps.map (Json.mapReferences f)))] := by
  simp [Json.mapFieldReferences, Json.mapReferences, Json.mapItemReferences_eq_map]

theorem fieldReferences_sequence (steps : List Json) :
    Json.fieldReferences [("sequence", .arr steps)] = steps.flatMap Json.references := by
  simp [Json.fieldReferences, Json.references, Json.itemReferences_eq_flatMap]

theorem mapFieldReferences_ownAction (parts : Entries Json) (rs : List Randomizer) :
    Json.mapFieldReferences f (ownAction parts rs) =
      ownAction (Json.mapFieldReferences f parts) (rs.map (·.mapReferences f)) := by
  cases rs with
  | nil => rfl
  | cons r rs =>
    rw [ownAction_cons, mapFieldReferences_sequence, List.map_append, mapReferences_steps,
      List.map_singleton, mapReferences_choice, List.map_cons, ownAction_cons]

theorem fieldReferences_ownAction (parts : Entries Json) (rs : List Randomizer) :
    Json.fieldReferences (ownAction parts rs) =
      Json.fieldReferences parts ++ rs.flatMap Randomizer.references := by
  cases rs with
  | nil => rw [ownAction_nil, List.flatMap_nil, List.append_nil]
  | cons r rs =>
    rw [ownAction_cons, fieldReferences_sequence, List.flatMap_append, references_steps,
      List.flatMap_singleton, references_choice]

theorem mapReferences_eq (ev : Event) : ev.mapReferences f =
    { ev with
      add := ev.add.map f, remove := ev.remove.map f
      randomizers := ev.randomizers.map (·.mapReferences f)
      sequential := mapAllReferences f ev.sequential, next := ev.next.map f } := by
  cases ev
  rfl

theorem own_mapReferences (ev : Event) :
    (ev.mapReferences f).own = Json.mapFieldReferences f ev.own := by
  unfold own
  rw [mapFieldReferences_ownAction, mapFieldReferences_primary, mapReferences_eq]

theorem layers_mapReferences (ev : Event) (hsub : (mapAllReferences f ev.sequential).map toJson =
    (ev.sequential.map toJson).map (Json.mapReferences f)) :
    (ev.mapReferences f).layers = Json.mapFieldReferences f ev.layers := by
  have hsequential : (ev.mapReferences f).sequential = mapAllReferences f ev.sequential := by
    rw [mapReferences_eq]
  have hnil : mapAllReferences f ev.sequential = [] ↔ ev.sequential = [] := by
    cases ev.sequential <;> simp [mapAllReferences]
  by_cases hs : ev.sequential = []
  · rw [layers_of_nil hs, layers_of_nil (hsequential.trans (hnil.mpr hs)), own_mapReferences]
  · have hne : (ev.mapReferences f).sequential ≠ [] := by
      rwa [hsequential, ne_eq, hnil]
    rw [layers_of_ne hne, layers_of_ne hs, mapFieldReferences_sequence, List.map_cons, hsequential,
      hsub, own_mapReferences, Json.mapReferences]

theorem fieldReferences_layers (ev : Event) : Json.fieldReferences ev.layers =
    ev.add ++ ev.remove ++ ev.randomizers.flatMap Randomizer.references ++
      (ev.sequential.map toJson).flatMap Json.references := by
  have hown : Json.fieldReferences ev.own =
      ev.add ++ ev.remove ++ ev.randomizers.flatMap Randomizer.references := by
    rw [own, fieldReferences_ownAction, fieldReferences_primary]
  by_cases hs : ev.sequential = []
  · rw [layers_of_nil hs, hown, hs, List.map_nil, List.flatMap_nil, List.append_nil]
  · rw [layers_of_ne hs, fieldReferences_sequence, List.flatMap_cons, Json.references, hown]

theorem mapFieldReferences_trigger (next : Option String) :
    Json.mapFieldReferences f (next.map trigger).toList = ((next.map f).map trigger).toList := by
  cases next <;> simp [trigger, Json.mapFieldReferences, Json.mapTriggered, Json.mapOwnText]

theorem fieldReferences_trigger (next : Option String) :
    Json.fieldReferences (next.map trigger).toList = next.toList := by
  cases next with
  | none => rfl
  | some event => rfl

mutual
theorem toJson_mapReferences : ∀ ev : Event,
    (ev.mapReferences f).toJson = ev.toJson.mapReferences f
  | ⟨id, scope, add, remove, p, rs, sequential, next⟩ => by
    have hlayers := layers_mapReferences f
      ⟨id, scope, add, remove, p, rs, sequential, next⟩ (toJson_mapAllReferences sequential)
    rw [toJson_eq, toJson_eq, hlayers, Json.mapReferences, Json.mapFieldReferences_append,
      mapFieldReferences_trigger, mapReferences_eq]
theorem toJson_mapAllReferences : ∀ evs : List Event,
    (mapAllReferences f evs).map toJson = (evs.map toJson).map (Json.mapReferences f)
  | [] => rfl
  | ev :: evs => by
    rw [mapAllReferences, List.map_cons, toJson_mapReferences ev, toJson_mapAllReferences evs,
      List.map_cons, List.map_cons]
end

mutual
/-- The walk comes to the trigger before the sub-events, and the document writes it behind. -/
theorem references_toJson_perm : ∀ ev : Event, ev.toJson.references.Perm ev.references
  | ⟨id, scope, add, remove, p, rs, sequential, next⟩ => by
    have hsub := allReferences_toJson_perm sequential
    have hbehind := (List.perm_append_comm.trans (hsub.append_left next.toList)).append_left
      (add ++ remove ++ rs.flatMap Randomizer.references)
    rw [toJson_eq, Json.references, Json.fieldReferences_append, fieldReferences_layers,
      fieldReferences_trigger, references]
    simpa only [List.append_assoc] using hbehind
theorem allReferences_toJson_perm : ∀ evs : List Event,
    ((evs.map toJson).flatMap Json.references).Perm (allReferences evs)
  | [] => .nil
  | ev :: evs => by
    rw [List.map_cons, List.flatMap_cons, allReferences]
    exact (references_toJson_perm ev).append (allReferences_toJson_perm evs)
end

theorem references_mapReferences (ev : Event) :
    (ev.mapReferences f).references = ev.references.map f := by
  have hrewritten : ev.Rewritten (fun id id' => f id = id') (ev.mapReferences f) :=
    rewritten_map (fun _ => rfl) ev
  have hreferences := hrewritten.references
  rw [← List.forall₂_map_left_iff, List.forall₂_eq_eq_eq] at hreferences
  exact hreferences.symm

variable {f} {g : String → String}

mutual
theorem mapReferences_congr : ∀ ev : Event, (∀ id ∈ ev.references, f id = g id) →
    ev.mapReferences f = ev.mapReferences g
  | ⟨id, scope, add, remove, p, rs, sequential, next⟩, h => by
    simp only [references, List.mem_append, or_imp, forall_and] at h
    obtain ⟨⟨⟨⟨hadd, hremove⟩, hrs⟩, hnext⟩, hsequential⟩ := h
    have hrandomizers : rs.map (·.mapReferences f) = rs.map (·.mapReferences g) := by
      refine List.map_congr_left fun r hr => r.mapReferences_congr fun id hid => ?_
      exact hrs id (List.mem_flatMap_of_mem hr hid)
    have htriggered : next.map f = next.map g :=
      Option.map_congr fun event hevent => hnext event (Option.mem_toList.mpr hevent)
    rw [mapReferences, mapReferences, List.map_congr_left hadd, List.map_congr_left hremove,
      hrandomizers, htriggered, mapAllReferences_congr sequential hsequential]
theorem mapAllReferences_congr : ∀ evs : List Event, (∀ id ∈ allReferences evs, f id = g id) →
    mapAllReferences f evs = mapAllReferences g evs
  | [], _ => rfl
  | ev :: evs, h => by
    simp only [allReferences, List.mem_append, or_imp, forall_and] at h
    rw [mapAllReferences, mapAllReferences, mapReferences_congr ev h.1,
      mapAllReferences_congr evs h.2]
end

/-- The walk changes an event by exactly what it does to the references. -/
theorem mapReferences_eq_iff (ev : Event) : ev.mapReferences f = ev.mapReferences g ↔
    ∀ id ∈ ev.references, f id = g id := by
  constructor
  · intro h
    have hreferences : ev.references.map f = ev.references.map g := by
      rw [← references_mapReferences, ← references_mapReferences, h]
    exact List.map_inj_left.mp hreferences
  · exact mapReferences_congr ev

/-- The object of an event after the walk is the object before it with the function applied to
every group in a list of component groups and to the event of every trigger. The references of
the object are those that the walk comes to, each as often as it does. -/
theorem objects_follow_the_walk (f : String → String) (ev : Event) :
    (ev.mapReferences f).toJson = ev.toJson.mapReferences f ∧
    ev.toJson.references.Perm ev.references ∧
    (ev.mapReferences f).references = ev.references.map f ∧
    ∀ g, ev.mapReferences f = ev.mapReferences g ↔ ∀ id ∈ ev.references, f id = g id :=
  ⟨toJson_mapReferences f ev, references_toJson_perm ev, references_mapReferences f ev,
    fun _ => mapReferences_eq_iff ev⟩

end Event

end

end EntityPack
