import EntityPack.Proofs.Placeholders
import EntityPack.Proofs.Rendering

/-!
# The spawn event in documents

Spawn actions go into the entry of the spawn event and nowhere else. An event that was added
under that id is extended at its place. A document without one gets the entry behind all others.
-/
namespace EntityPack

/-- The entries of `merged` are those of `base` overlaid by later ones. A later value wins, an
earlier place is kept. -/
structure Entries.Overlaid {α : Type} (base later merged : Entries α) : Prop where
  keys : Entries.keys merged = Entries.keys base ++
    ((Entries.keys later).removeAll (Entries.keys base)).eraseDups
  value : ∀ key, Entries.get? key merged =
    (Entries.get? key later.reverse).or (Entries.get? key base)
  distinct : (Entries.keys base).Nodup → (Entries.keys merged).Nodup

theorem Entries.overlaid_merge {α : Type} (base later : Entries α) :
    Overlaid base later (base.merge later) where
  keys := keys_merge base later
  value key := by rw [get?_merge, get?_eq_find? key later.reverse]
  distinct h := nodup_keys_merge h later

def Json.eventFields (document : Json) : Entries Json :=
  match (document.get? "minecraft:entity").bind (·.get? "events") with
  | some (.obj fields) => fields
  | _ => []

namespace Behavior

/-- The event with the spawn actions behind its own. -/
structure Extended (b : Behavior) (ev spawn : Event) : Prop where
  fullId : spawn.fullId = ev.fullId
  add : spawn.add = ev.add ++ b.spawnGroups
  remove : spawn.remove = ev.remove
  properties : Entries.Overlaid ev.properties b.spawnProperties spawn.properties
  randomizers : spawn.randomizers = ev.randomizers ++ b.spawnRandomizers
  sequential : spawn.sequential = ev.sequential ++ b.spawnSequential
  next : spawn.next = ev.next

def withoutSpawnActions (b : Behavior) : Behavior :=
  { b with
    spawnGroups := [], spawnRandomizers := [], spawnSequential := [], spawnProperties := [] }

variable {b : Behavior} {spawn : Event}

theorem spawnEvent?_eq_none : b.spawnEvent? = none ↔ b.hasSpawnActions = false := by
  unfold spawnEvent?
  cases b.hasSpawnActions <;> simp

theorem extended_spawnEvent (h : b.spawnEvent? = some spawn) :
    b.Extended ((b.event? bareSpawnEvent.fullId).getD bareSpawnEvent) spawn := by
  unfold spawnEvent? at h
  split at h
  · obtain rfl := Option.some.inj h
    exact ⟨rfl, rfl, rfl, Entries.overlaid_merge _ _, rfl, rfl, rfl⟩
  · cases h

theorem extended_self (h : b.hasSpawnActions = false) (ev : Event) : b.Extended ev ev := by
  unfold hasSpawnActions at h
  simp only [Bool.not_eq_false', Bool.and_eq_true, List.isEmpty_iff] at h
  obtain ⟨⟨⟨hgroups, hrandomizers⟩, hsequential⟩, hproperties⟩ := h
  refine ⟨rfl, ?_, rfl, ?_, ?_, ?_, rfl⟩
  · rw [hgroups, List.append_nil]
  · rw [hproperties]
    exact Entries.overlaid_merge ev.properties []
  · rw [hrandomizers, List.append_nil]
  · rw [hsequential, List.append_nil]

theorem hasSpawnActions_of_some (h : b.spawnEvent? = some spawn) : b.hasSpawnActions = true := by
  have hne : ¬ b.spawnEvent? = none := by simp [h]
  rwa [spawnEvent?_eq_none, Bool.not_eq_false] at hne

theorem keys_eventEntries (b : Behavior) : Entries.keys b.eventEntries =
    (b.events.map Event.fullId).eraseDups ++
      if b.hasSpawnActions = true ∧ bareSpawnEvent.fullId ∉ b.events.map Event.fullId
      then [bareSpawnEvent.fullId] else [] := by
  unfold eventEntries
  cases hspawn : b.spawnEvent? with
  | none => simp [Entries.keys_ofList_map, spawnEvent?_eq_none.mp hspawn]
  | some spawn =>
    have hkeys : Entries.keys ((b.events.map fun ev => if ev.fullId = spawn.fullId
        then (spawn.fullId, spawn.toJson) else (ev.fullId, ev.toJson)) ++
          [(spawn.fullId, spawn.toJson)]) = b.events.map Event.fullId ++ [spawn.fullId] := by
      rw [Entries.keys, List.map_append, List.map_map]
      refine congrArg (· ++ [spawn.fullId]) (List.map_congr_left fun ev _ => ?_)
      by_cases h : ev.fullId = spawn.fullId <;> simp [h]
    rw [Entries.keys_ofList, hkeys, List.eraseDups_append, fullId_spawnEvent hspawn]
    by_cases hm : bareSpawnEvent.fullId ∈ b.events.map Event.fullId
    · simp [List.cons_removeAll, hm]
    · simp [List.cons_removeAll, hm, hasSpawnActions_of_some hspawn, List.eraseDups_cons]

theorem get?_eventEntries_spawn (h : b.spawnEvent? = some spawn) :
    Entries.get? bareSpawnEvent.fullId b.eventEntries = some spawn.toJson := by
  unfold eventEntries
  rw [h, Entries.get?_ofList, List.reverse_concat', ← fullId_spawnEvent h, find?_key_cons,
    if_pos rfl, Option.map_some]

theorem get?_eventEntries_explicit (hnone : b.hasSpawnActions = false)
    (hone : (b.events.map Event.fullId).count bareSpawnEvent.fullId = 1) {ev : Event}
    (hev : b.event? bareSpawnEvent.fullId = some ev) :
    Entries.get? bareSpawnEvent.fullId b.eventEntries = some ev.toJson := by
  rw [get?_eventEntries_of_none (spawnEvent?_eq_none.mpr hnone),
    Entity.lastEvent?_of_once hone hev, Option.map_some]

theorem eventFields_document (version : String) (b : Behavior) :
    (b.document version).eventFields = b.eventEntries := by
  rw [Json.eventFields, events_document]
  cases b.eventEntries with
  | nil => rfl
  | cons entry entries => rfl

/-- Where at most one event bears the id of the spawn event, the ids in a document are those of
the events in order, and the id of the spawn event behind them if only spawn actions ask for it.
Its entry shows the event that was added, or else a bare one, with the spawn actions behind its
own, and every other entry is what it is without spawn actions. Writing documents leaves the
behavior as resolving the branches does. -/
theorem spawn_event_is_extended (version : String) (b : Behavior)
    (hone : (b.events.map Event.fullId).count bareSpawnEvent.fullId ≤ 1) :
    Entries.keys (b.document version).eventFields = (b.events.map Event.fullId).eraseDups ++
      (if b.hasSpawnActions = true ∧ bareSpawnEvent.fullId ∉ b.events.map Event.fullId
        then [bareSpawnEvent.fullId] else []) ∧
    (∀ id, id ≠ bareSpawnEvent.fullId → Entries.get? id (b.document version).eventFields =
      Entries.get? id (b.withoutSpawnActions.document version).eventFields) ∧
    (bareSpawnEvent.fullId ∈ Entries.keys (b.document version).eventFields → ∃ spawn,
      b.Extended ((b.event? bareSpawnEvent.fullId).getD bareSpawnEvent) spawn ∧
      Entries.get? bareSpawnEvent.fullId (b.document version).eventFields = some spawn.toJson) ∧
    ∀ e : Entity, (Entity.build.apply e).1.behavior =
      (Entity.resolveBranches.apply e).1.behavior := by
  rw [eventFields_document, eventFields_document]
  refine ⟨keys_eventEntries b, fun id hid => ?_, fun hm => ?_, fun e => ?_⟩
  · rw [get?_eventEntries b hid, get?_eventEntries _ hid]
    rfl
  · cases hspawn : b.spawnEvent? with
    | some spawn => exact ⟨spawn, extended_spawnEvent hspawn, get?_eventEntries_spawn hspawn⟩
    | none =>
      have hnone := spawnEvent?_eq_none.mp hspawn
      rw [keys_eventEntries, hnone] at hm
      have hevents : bareSpawnEvent.fullId ∈ b.events.map Event.fullId := by simpa using hm
      have honce := Nat.le_antisymm hone (List.count_pos_iff.mpr hevents)
      have hsome : b.event? bareSpawnEvent.fullId ≠ none :=
        mt Entity.event?_none_iff.mp (by rw [honce]; exact Nat.one_ne_zero)
      obtain ⟨ev, hev⟩ := Option.ne_none_iff_exists'.mp hsome
      refine ⟨ev, ?_, get?_eventEntries_explicit hnone honce hev⟩
      rw [hev]
      exact extended_self hnone ev
  · rw [Entity.state_build]

/-- The id of the spawn event is written in one piece, and another id is borne twice. The spawn
properties assign one id twice and one that the event assigns. -/
def explicitSpawn : Behavior := {
  id := "dev:boss"
  events := [
    { id := "alarm", remove := ["base"] },
    { id := "minecraft:entity_spawned", add := ["base"], remove := ["egg"], next := some "hatch",
      properties := [("phase", .int 0), ("mood", .text "calm")],
      randomizers := [{ add := some ["red"] }] },
    { id := "alarm", remove := ["egg"] }]
  spawnGroups := ["state_0"]
  spawnRandomizers := [{ weight := 3 }]
  spawnSequential := [{ id := "cry" }]
  spawnProperties := [("size", .int 2), ("phase", .int 1), ("size", .int 5)] }

theorem explicit_spawn_is_extended :
    (explicitSpawn.events.map Event.fullId).count bareSpawnEvent.fullId ≤ 1 ∧
    Entries.keys (explicitSpawn.document "1.16.0").eventFields =
      ["alarm", "minecraft:entity_spawned"] ∧
    ∃ spawn : Event, spawn.add = ["base", "state_0"] ∧ spawn.remove = ["egg"] ∧
      spawn.randomizers.map Randomizer.weight = [1, 3] ∧
      spawn.sequential.map Event.id = ["cry"] ∧ spawn.next = some "hatch" ∧
      Entries.keys spawn.properties = ["phase", "mood", "size"] ∧
      Entries.get? "phase" spawn.properties = some (.int 1) ∧
      Entries.get? "size" spawn.properties = some (.int 5) ∧
      Entries.get? "minecraft:entity_spawned" (explicitSpawn.document "1.16.0").eventFields =
        some spawn.toJson := by
  have hone : (explicitSpawn.events.map Event.fullId).count bareSpawnEvent.fullId ≤ 1 := by
    decide +kernel
  obtain ⟨hkeys, -, hentry, -⟩ := spawn_event_is_extended "1.16.0" explicitSpawn hone
  have hids : Entries.keys (explicitSpawn.document "1.16.0").eventFields =
      ["alarm", "minecraft:entity_spawned"] := hkeys.trans (by decide +kernel)
  obtain ⟨spawn, hspawn, hshown⟩ := hentry (by rw [hids]; decide +kernel)
  refine ⟨hone, hids, spawn, hspawn.add, hspawn.remove, ?_, ?_, hspawn.next, ?_, ?_, ?_, hshown⟩
  · rw [hspawn.randomizers]
    rfl
  · rw [hspawn.sequential]
    rfl
  · rw [hspawn.properties.keys]
    decide +kernel
  · rw [hspawn.properties.value]
    decide +kernel
  · rw [hspawn.properties.value]
    decide +kernel

end Behavior
end EntityPack
