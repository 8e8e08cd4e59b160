import EntityPack.Behavior
import EntityPack.Proofs.Entries

/-!
# Events in documents

The object of an event tells which groups it removes, in whatever layers it is written. In a
document an id stands for its last bearer, whereas look-ups go for the first.
-/
namespace EntityPack

/-- The object of an event removes the group, itself or in one of its steps. -/
inductive Json.RemovesGroup (group : String) : Json → Prop where
  | here {fields groups} : Entries.get? "remove" fields = some (groupsJson groups) →
      group ∈ groups → RemovesGroup group (.obj fields)
  | step {fields steps step} : Entries.get? "sequence" fields = some (.arr steps) →
      step ∈ steps → RemovesGroup group step → RemovesGroup group (.obj fields)

def Json.eventObject? (id : String) (document : Json) : Option Json :=
  ((document.get? "minecraft:entity").bind (·.get? "events")).bind (·.get? id)

def Behavior.lastEvent? (id : String) (b : Behavior) : Option Event :=
  b.events.reverse.find? (·.fullId == id)

namespace Event

variable {group : String} {groups groups' add remove : List String} {properties : Assignments}
  {randomizers : List Randomizer} {rest fields : Entries Json} {entry : String × Json}

theorem groupsJson_inj : groupsJson groups = groupsJson groups' ↔ groups = groups' := by
  have hinj : Function.Injective Json.str := fun _ _ h => Json.str.inj h
  unfold groupsJson Json.ofStrings
  simp [List.map_inj_right fun _ _ h => hinj h]

theorem removesGroup_obj : Json.RemovesGroup group (.obj fields) ↔
    (∃ groups, Entries.get? "remove" fields = some (groupsJson groups) ∧ group ∈ groups) ∨
    ∃ steps step, Entries.get? "sequence" fields = some (.arr steps) ∧ step ∈ steps ∧
      Json.RemovesGroup group step := by
  constructor
  · rintro (⟨hget, hm⟩ | ⟨hget, hm, hs⟩)
    · exact Or.inl ⟨_, hget, hm⟩
    · exact Or.inr ⟨_, _, hget, hm, hs⟩
  · rintro (⟨groups, hget, hm⟩ | ⟨steps, step, hget, hm, hs⟩)
    · exact .here hget hm
    · exact .step hget hm hs

theorem mem_primary : entry ∈ primary add remove properties ↔
    (add.isEmpty = false ∧ entry = ("add", groupsJson add)) ∨
    (remove.isEmpty = false ∧ entry = ("remove", groupsJson remove)) ∨
    (properties.isEmpty = false ∧ entry = ("set_property", properties.toJson)) := by
  unfold primary
  cases add.isEmpty <;> cases remove.isEmpty <;> cases properties.isEmpty <;> simp

theorem get?_primary_remove : Entries.get? "remove" (primary add remove properties) =
    if remove.isEmpty then none else some (groupsJson remove) := by
  unfold primary
  cases add.isEmpty <;> cases remove.isEmpty <;> cases properties.isEmpty <;> rfl

theorem get?_primary_sequence :
    Entries.get? "sequence" (primary add remove properties) = none := by
  unfold primary
  cases add.isEmpty <;> cases remove.isEmpty <;> cases properties.isEmpty <;> rfl

theorem removesGroup_primary (hr : Entries.get? "remove" rest = none)
    (hs : Entries.get? "sequence" rest = none) :
    Json.RemovesGroup group (.obj (primary add remove properties ++ rest)) ↔ group ∈ remove := by
  rw [removesGroup_obj, Entries.get?_append, Entries.get?_append, get?_primary_remove,
    get?_primary_sequence, hr, hs]
  cases remove with
  | nil => simp
  | cons g remove =>
    simp only [List.isEmpty_cons, Bool.false_eq_true, if_false, Option.some_or, Option.none_or,
      Option.some.injEq, groupsJson_inj, reduceCtorEq, false_and, exists_false, or_false,
      exists_eq_left']

theorem removesGroup_part (he : entry ∈ primary add remove properties) :
    Json.RemovesGroup group (.obj [entry]) ↔
      entry = ("remove", groupsJson remove) ∧ group ∈ remove := by
  rw [removesGroup_obj]
  rcases mem_primary.mp he with ⟨-, rfl⟩ | ⟨-, rfl⟩ | ⟨-, rfl⟩
  · simp [Entries.get?]
  · simp [Entries.get?, groupsJson_inj]
  · simp [Entries.get?]

theorem removesGroup_ownAction (hr : Entries.get? "remove" rest = none)
    (hs : Entries.get? "sequence" rest = none) :
    Json.RemovesGroup group
      (.obj (ownAction (primary add remove properties) randomizers ++ rest)) ↔
      group ∈ remove := by
  unfold ownAction
  split
  · exact removesGroup_primary hr hs
  · rw [removesGroup_obj]
    constructor
    · rintro (⟨groups, hget, -⟩ | ⟨steps, step, hget, hm, hstep⟩)
      · cases hr.symm.trans hget
      · cases hget
        rcases List.mem_append.mp hm with hm | hm
        · obtain ⟨entry, he, rfl⟩ := List.mem_map.mp hm
          exact ((removesGroup_part he).mp hstep).2
        · rw [List.mem_singleton.mp hm, removesGroup_obj] at hstep
          simp [Entries.get?] at hstep
    · intro hg
      have hremove : remove.isEmpty = false := by
        cases remove with
        | nil => cases hg
        | cons g remove => rfl
      have he : ("remove", groupsJson remove) ∈ primary add remove properties :=
        mem_primary.mpr (Or.inr (Or.inl ⟨hremove, rfl⟩))
      exact Or.inr ⟨_, .obj [("remove", groupsJson remove)], rfl,
        List.mem_append_left _ (List.mem_map_of_mem he), (removesGroup_part he).mpr ⟨rfl, hg⟩⟩

theorem toJsonAll_eq (events : List Event) : toJsonAll events = events.map toJson := by
  induction events with
  | nil => rw [toJsonAll, List.map_nil]
  | cons ev events ih => rw [toJsonAll, ih, List.map_cons]

/-- An event is written so that it removes its own groups and those of its sub-events. -/
theorem removesGroup_toJson (ev : Event) : Json.RemovesGroup group ev.toJson ↔
    group ∈ ev.remove ∨ ∃ sub ∈ ev.sequential, Json.RemovesGroup group sub.toJson := by
  obtain ⟨id, scope, add, remove, properties, randomizers, sequential, next⟩ := ev
  have hr : Entries.get? "remove" (next.map trigger).toList = none := by
    cases next <;> rfl
  have hs : Entries.get? "sequence" (next.map trigger).toList = none := by
    cases next <;> rfl
  have hown : Json.RemovesGroup group
      (.obj (ownAction (primary add remove properties) randomizers)) ↔ group ∈ remove := by
    have hbare : Json.RemovesGroup group
        (.obj (ownAction (primary add remove properties) randomizers ++ [])) ↔ group ∈ remove :=
      removesGroup_ownAction rfl rfl
    rwa [List.append_nil] at hbare
  rw [toJson, toJsonAll_eq]
  cases sequential with
  | nil =>
    simp only [List.map_nil, List.not_mem_nil, false_and, exists_false, or_false]
    exact removesGroup_ownAction hr hs
  | cons sub subs =>
    simp only [List.map_cons, List.cons_append, List.nil_append]
    rw [removesGroup_obj]
    constructor
    · rintro (⟨groups, hget, -⟩ | ⟨steps, step, hget, hm, hstep⟩)
      · cases hr.symm.trans hget
      · cases hget
        rcases List.mem_cons.mp hm with rfl | hm
        · exact Or.inl (hown.mp hstep)
        · rw [← List.map_cons] at hm
          obtain ⟨sub, hsub, rfl⟩ := List.mem_map.mp hm
          exact Or.inr ⟨sub, hsub, hstep⟩
    · rintro (hg | ⟨sub', hsub, hstep⟩)
      · exact Or.inr ⟨_, _, rfl, List.mem_cons_self, hown.mpr hg⟩
      · refine Or.inr ⟨_, _, rfl, List.mem_cons_of_mem _ ?_, hstep⟩
        rw [← List.map_cons]
        exact List.mem_map_of_mem hsub

end Event

namespace Behavior

theorem fullId_spawnEvent {b : Behavior} {spawn : Event} (h : b.spawnEvent? = some spawn) :
    spawn.fullId = bareSpawnEvent.fullId := by
  have hexplicit : ((b.event? bareSpawnEvent.fullId).getD bareSpawnEvent).fullId =
      bareSpawnEvent.fullId := by
    cases he : b.event? bareSpawnEvent.fullId with
    | none => rfl
    | some ev =>
      have hbears := List.find?_some he
      exact beq_iff_eq.mp hbears
  unfold spawnEvent? at h
  split at h
  · rw [← Option.some.inj h]
    exact hexplicit
  · cases h

/-- Without spawn actions the entry of an id shows the last event of that id. -/
theorem get?_eventEntries_of_none {b : Behavior} (h : b.spawnEvent? = none) (id : String) :
    Entries.get? id b.eventEntries = (b.lastEvent? id).map Event.toJson := by
  unfold eventEntries lastEvent?
  rw [h, Entries.get?_ofList_map]

/-- The entry of an id other than that of the spawn event shows the last event of that id. -/
theorem get?_eventEntries (b : Behavior) {id : String} (hid : id ≠ bareSpawnEvent.fullId) :
    Entries.get? id b.eventEntries = (b.lastEvent? id).map Event.toJson := by
  cases hspawn : b.spawnEvent? with
  | none => exact get?_eventEntries_of_none hspawn id
  | some spawn =>
    have hspawnId := fullId_spawnEvent hspawn
    -- The merged spawn event stands where its id stood, so every event keeps its own id.
    have hkey : ∀ ev : Event, (if ev.fullId = spawn.fullId then (spawn.fullId, spawn.toJson)
        else (ev.fullId, ev.toJson)).1 = ev.fullId := by
      intro ev
      split
      · rename_i heq
        exact heq.symm
      · rfl
    have hspawnNe : spawn.fullId ≠ id := fun heq => hid (heq.symm.trans hspawnId)
    unfold eventEntries lastEvent?
    rw [hspawn, Entries.get?_ofList, List.reverse_append, List.reverse_singleton,
      List.singleton_append, find?_key_cons, if_neg hspawnNe, ← List.map_reverse, List.find?_map]
    simp only [Function.comp_def, hkey]
    cases hev : b.events.reverse.find? (·.fullId == id) with
    | none => rfl
    | some ev =>
      have hbears := List.find?_some hev
      have hne : ev.fullId ≠ spawn.fullId := by
        rw [beq_iff_eq.mp hbears]
        exact Ne.symm hspawnNe
      simp only [Option.map_some, if_neg hne]

theorem events_document (version : String) (b : Behavior) :
    ((b.document version).get? "minecraft:entity").bind (·.get? "events") =
      if b.eventEntries.isEmpty then none else some (.obj b.eventEntries) := by
  have hfields : (b.document version).get? "minecraft:entity" = some (.obj
      ([("description", b.description), ("components", Component.objectOf b.components)] ++
      (if b.groups.isEmpty then []
        else [("component_groups", .ofFields (b.groups.map fun g => (g.fullId, g.toJson)))]) ++
      (if b.eventEntries.isEmpty then [] else [("events", .obj b.eventEntries)]))) := rfl
  rw [hfields, Option.bind_some, Json.get?, Entries.get?_append, Entries.get?_append]
  cases b.groups.isEmpty <;> cases b.eventEntries.isEmpty <;> rfl

theorem eventObject?_document (version : String) (b : Behavior) {id : String}
    (hid : id ≠ bareSpawnEvent.fullId) :
    (b.document version).eventObject? id = (b.lastEvent? id).map Event.toJson := by
  rw [← get?_eventEntries b hid, Json.eventObject?, events_document]
  cases b.eventEntries with
  | nil => rfl
  | cons entry entries => rfl

end Behavior
end EntityPack
