import EntityPack.Animation
import EntityPack.Proofs.Entries
import Mathlib.Data.List.Perm.Basic

/-!
# Timelines in documents

An animation keeps every item of its timeline in the order in which the items were added. Its
object has one entry for each time, which holds the commands of the last item of that time. So a
document has all commands exactly if no earlier item of a time that comes again has any.
-/
namespace EntityPack

/-- The commands of an entry. A bare text is one command. -/
def Json.commands : Json → List String
  | .str command => [command]
  | .arr items => items.filterMap text?
  | _ => []

def Json.timelineFields (animation : Json) : Entries Json :=
  match animation.get? "timeline" with
  | some (.obj fields) => fields
  | _ => []

def Json.timelineCommands (animation : Json) : List String :=
  animation.timelineFields.flatMap fun field => field.2.commands

def Json.commandsAt (key : String) (animation : Json) : List String :=
  ((Entries.get? key animation.timelineFields).map commands).getD []

theorem Entries.flatMap_values {α β : Type} (f : α → List β) {entries : Entries α}
    (h : (keys entries).Nodup) : entries.flatMap (fun entry => f entry.2) =
      (keys entries).flatMap fun key => ((get? key entries).map f).getD [] := by
  conv_lhs => rw [← filterMap_keys h]
  rw [List.filterMap_eq_flatMap_toList, List.flatMap_assoc]
  congr 1
  funext key
  cases get? key entries <;> simp

namespace Animation

def Edit.items : Edit → List TimelineItem
  | .addItems items => items
  | .setLooping _ | .setLength _ => []

def itemsAt (key : String) (items : List TimelineItem) : List TimelineItem :=
  items.filter (·.key == key)

/-- The commands of the items at a time that another item of that time follows. -/
def commandsBefore (key : String) (items : List TimelineItem) : List String :=
  (itemsAt key items).dropLast.flatMap TimelineItem.commands

variable {items : List TimelineItem}

theorem commands_toJson (item : TimelineItem) : item.toJson.commands = item.commands := by
  have htext : ∀ command, (Json.str command).text? = some command := fun _ => rfl
  unfold TimelineItem.toJson
  split
  · rename_i command hcommands
    rw [hcommands]
    rfl
  · simp [Json.ofStrings, Json.commands, htext]

theorem timeline_edits (a : Animation) (edits : List Edit) :
    (edits.foldl edit a).timeline = a.timeline ++ edits.flatMap Edit.items := by
  refine foldl_add Animation.timeline (fun a change => ?_) a edits
  cases change with
  | addItems items => rfl
  | setLooping on => exact (List.append_nil _).symm
  | setLength seconds => exact (List.append_nil _).symm

theorem timelineFields_toJson (a : Animation) : a.toJson.timelineFields =
    Entries.ofList (a.timeline.map fun item => (item.key, item.toJson)) := by
  obtain ⟨id, looping, length, timeline⟩ := a
  cases timeline with
  | nil => cases looping <;> cases length <;> rfl
  | cons item timeline => cases looping <;> cases length <;> rfl

theorem get?_timelineFields (a : Animation) (key : String) :
    Entries.get? key a.toJson.timelineFields =
      (itemsAt key a.timeline).getLast?.map TimelineItem.toJson := by
  rw [timelineFields_toJson, Entries.get?_ofList_map, itemsAt, List.getLast?_filter]

theorem commandsAt_toJson (a : Animation) (key : String) : a.toJson.commandsAt key =
    ((itemsAt key a.timeline).getLast?.map TimelineItem.commands).getD [] := by
  rw [Json.commandsAt, get?_timelineFields, Option.map_map]
  simp only [Function.comp_def, commands_toJson]

theorem commandsBefore_append (key : String) (items : List TimelineItem) :
    commandsBefore key items ++ ((itemsAt key items).getLast?.map TimelineItem.commands).getD [] =
      (itemsAt key items).flatMap TimelineItem.commands := by
  unfold commandsBefore
  obtain hnil | ⟨earlier, item, hlast⟩ := List.eq_nil_or_concat' (itemsAt key items)
  · rw [hnil]
    rfl
  · rw [hlast, List.dropLast_concat, List.getLast?_concat, List.flatMap_append,
      List.flatMap_singleton]
    rfl

theorem itemsAt_perm {times : List String} (hd : times.Nodup) (items : List TimelineItem) :
    (times.flatMap fun key => itemsAt key items).Perm
      (items.filter fun item => times.contains item.key) := by
  induction times with
  | nil => simp
  | cons time times ih =>
    obtain ⟨hfresh, hrest⟩ := List.nodup_cons.mp hd
    -- The items of the first time are split off; no later time has any of them.
    have hsplit := List.filter_append_perm (·.key == time)
      (items.filter fun item => (time :: times).contains item.key)
    have hhere : (items.filter fun item => (time :: times).contains item.key).filter
        (·.key == time) = itemsAt time items := by
      rw [List.filter_filter]
      refine List.filter_congr fun item _ => ?_
      by_cases h : item.key = time <;> simp [h]
    have hthere : (items.filter fun item => (time :: times).contains item.key).filter
        (fun item => !(item.key == time)) = items.filter fun item => times.contains item.key := by
      rw [List.filter_filter]
      refine List.filter_congr fun item _ => ?_
      by_cases h : item.key = time <;> simp [h, hfresh]
    rw [hhere, hthere] at hsplit
    exact ((ih hrest).append_left _).trans hsplit

theorem nodup_timelineFields (a : Animation) : (Entries.keys a.toJson.timelineFields).Nodup := by
  rw [timelineFields_toJson]
  exact Entries.nodup_keys_ofList _

theorem mem_timelineFields {a : Animation} {key : String} :
    key ∈ Entries.keys a.toJson.timelineFields ↔ ∃ item ∈ a.timeline, item.key = key := by
  rw [timelineFields_toJson, Entries.keys_ofList_map, List.mem_eraseDups, List.mem_map]

/-- The commands of a document and those that it lacks are the commands of the timeline. -/
theorem timelineCommands_perm (a : Animation) :
    ((Entries.keys a.toJson.timelineFields).flatMap (commandsBefore · a.timeline) ++
      a.toJson.timelineCommands).Perm (a.timeline.flatMap TimelineItem.commands) := by
  have hshown : a.toJson.timelineCommands =
      (Entries.keys a.toJson.timelineFields).flatMap fun key => a.toJson.commandsAt key :=
    Entries.flatMap_values Json.commands (nodup_timelineFields a)
  have hall : (a.timeline.filter fun item =>
      (Entries.keys a.toJson.timelineFields).contains item.key) = a.timeline := by
    refine List.filter_eq_self.mpr fun item hm => ?_
    rw [List.contains_iff_mem]
    exact mem_timelineFields.mpr ⟨item, hm, rfl⟩
  -- Time by time, the commands before the last item and those under the key are all of that time.
  have hgroups := itemsAt_perm (nodup_timelineFields a) a.timeline
  rw [hall] at hgroups
  have hcommands := hgroups.flatMap_right TimelineItem.commands
  rw [List.flatMap_assoc] at hcommands
  rw [hshown]
  refine (List.flatMap_append_perm ..).trans ?_
  simpa only [commandsAt_toJson, commandsBefore_append] using hcommands

theorem commandsBefore_of_absent {key : String} (h : ¬ ∃ item ∈ items, item.key = key) :
    commandsBefore key items = [] := by
  have hnone : itemsAt key items = [] := by
    refine List.filter_eq_nil_iff.mpr fun item hm => ?_
    intro hkey
    exact h ⟨item, hm, beq_iff_eq.mp hkey⟩
  rw [commandsBefore, hnone]
  rfl

theorem timelineCommands_perm_iff (a : Animation) :
    a.toJson.timelineCommands.Perm (a.timeline.flatMap TimelineItem.commands) ↔
      ∀ key, commandsBefore key a.timeline = [] := by
  have hperm := timelineCommands_perm a
  constructor
  · intro h key
    have hlength := (hperm.trans h.symm).length_eq
    rw [List.length_append, Nat.add_eq_right, List.length_eq_zero_iff, List.flatMap_eq_nil_iff]
      at hlength
    by_cases hkey : ∃ item ∈ a.timeline, item.key = key
    · exact hlength key (mem_timelineFields.mpr hkey)
    · exact commandsBefore_of_absent hkey
  · intro h
    rwa [List.flatMap_eq_nil_iff.mpr fun key _ => h key, List.nil_append] at hperm

/-- Under each time stand the commands of its last item. They are those of all its items, in the
order in which these were added, exactly if the earlier ones have none, and the document has every
command once exactly if that is so for all times. -/
theorem entries_show_last_items (id : String) (edits : List Edit) :
    (∀ key, (edits.foldl edit { id }).toJson.commandsAt key =
      ((itemsAt key (edits.flatMap Edit.items)).getLast?.map TimelineItem.commands).getD []) ∧
    (∀ key, (edits.foldl edit { id }).toJson.commandsAt key =
        (itemsAt key (edits.flatMap Edit.items)).flatMap TimelineItem.commands ↔
      commandsBefore key (edits.flatMap Edit.items) = []) ∧
    ((edits.foldl edit { id }).toJson.timelineCommands.Perm
        ((edits.flatMap Edit.items).flatMap TimelineItem.commands) ↔
      ∀ key, commandsBefore key (edits.flatMap Edit.items) = []) := by
  have htimeline : (edits.foldl edit { id }).timeline = edits.flatMap Edit.items :=
    timeline_edits { id } edits
  rw [← htimeline]
  refine ⟨fun key => commandsAt_toJson _ key, fun key => ?_, timelineCommands_perm_iff _⟩
  rw [commandsAt_toJson, ← commandsBefore_append, List.self_eq_append_left]

def simultaneousItems : List Edit := [
  .addItems [{ time := 1.5, commands := ["/say one"] }],
  .addItems [{ time := 1.5, commands := ["/say two"] }]]

/-- The command of an item is lost if another item has the same time. -/
theorem simultaneous_items_lose_a_command :
    (itemsAt (TimelineItem.key { time := 1.5 }) (simultaneousItems.flatMap Edit.items)).flatMap
      TimelineItem.commands = ["/say one", "/say two"] ∧
    (simultaneousItems.foldl edit { id := "animation.boss" }).toJson.commandsAt
      (TimelineItem.key { time := 1.5 }) = ["/say two"] := by
  have hitems : itemsAt (TimelineItem.key { time := 1.5 }) (simultaneousItems.flatMap Edit.items) =
      simultaneousItems.flatMap Edit.items := by
    simp [simultaneousItems, Edit.items, itemsAt, TimelineItem.key]
  constructor
  · rw [hitems]
    rfl
  · rw [commandsAt_toJson, timeline_edits, List.nil_append, hitems]
    rfl

end Animation
end EntityPack
