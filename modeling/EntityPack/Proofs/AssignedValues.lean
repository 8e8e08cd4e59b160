import EntityPack.Form.Reading
import EntityPack.Proofs.Entries
import Mathlib.Data.List.Nodup

/-!
# Assigned values in documents

Setting a value replaces the first assignment of its id, whereas an object shows the last one. Both
are the same assignment as long as no id is assigned twice, which only lists read from data do.
-/
namespace EntityPack

theorem propertyKey_inj {id other : String} : propertyKey id = propertyKey other ↔ id = other :=
  String.append_right_inj "property:"

namespace Assignments

def written? (id : String) (assignments : Assignments) : Option Json :=
  assignments.toJson.get? (propertyKey id)

def writtenKeys (assignments : Assignments) : List String :=
  Entries.keys (assignments.toJson.fieldsAt [])

inductive Edit where
  | set (id : String) (value : PropertyValue)
  | extend (later : Assignments)

def edit (assignments : Assignments) : Edit → Assignments
  | .set id value => Entries.insert id value assignments
  | .extend later => Entries.merge assignments later

/-- Assignments that are collected from pairs and then changed. Those that are read from data need
not be of this kind. -/
def Collected (assignments : Assignments) : Prop :=
  ∃ (pairs : List (String × PropertyValue)) (edits : List Edit),
    assignments = edits.foldl edit (Entries.ofList pairs)

variable {assignments : Assignments}

theorem written?_eq (id : String) (assignments : Assignments) :
    assignments.written? id = (Entries.last? id assignments).map PropertyValue.toJson := by
  have hkey : ∀ entry : String × PropertyValue,
      (propertyKey entry.1 == propertyKey id) = (entry.1 == id) := by
    intro entry
    rw [Bool.eq_iff_iff, beq_iff_eq, beq_iff_eq, propertyKey_inj]
  have hshown : assignments.written? id = (assignments.reverse.find? fun entry =>
      propertyKey entry.1 == propertyKey id).map (·.2.toJson) :=
    Entries.get?_ofList_map (fun entry : String × PropertyValue => propertyKey entry.1)
      (fun entry => entry.2.toJson) assignments (propertyKey id)
  rw [hshown, funext hkey, Entries.last?, Entries.get?_eq_find?, Option.map_map]
  rfl

theorem writtenKeys_eq (assignments : Assignments) :
    assignments.writtenKeys = ((Entries.keys assignments).map propertyKey).eraseDups := by
  rw [Entries.keys, List.map_map]
  exact Entries.keys_ofList_map (fun entry : String × PropertyValue => propertyKey entry.1)
    (fun entry => entry.2.toJson) assignments

theorem nodup_edit (h : (Entries.keys assignments).Nodup) (change : Edit) :
    (Entries.keys (assignments.edit change)).Nodup := by
  cases change with
  | set id value => exact Entries.nodup_keys_insert h id value
  | extend later => exact Entries.nodup_keys_merge h later

theorem Collected.nodup (h : Collected assignments) : (Entries.keys assignments).Nodup := by
  obtain ⟨pairs, edits, rfl⟩ := h
  have hpairs := Entries.nodup_keys_ofList pairs
  generalize Entries.ofList pairs = start at hpairs
  induction edits generalizing start with
  | nil => exact hpairs
  | cons change edits ih => exact ih _ (nodup_edit hpairs change)

theorem written?_insert (id : String) (value : PropertyValue) (assignments : Assignments)
    (other : String) : written? other (Entries.insert id value assignments) =
      if id = other ∧ (Entries.keys assignments).count id ≤ 1 then some value.toJson
      else assignments.written? other := by
  rw [written?_eq, written?_eq, Entries.last?_insert]
  split <;> rfl

theorem writtenKeys_insert (id : String) (value : PropertyValue) (assignments : Assignments) :
    writtenKeys (Entries.insert id value assignments) =
      if id ∈ Entries.keys assignments then assignments.writtenKeys
      else assignments.writtenKeys ++ [propertyKey id] := by
  rw [writtenKeys_eq, writtenKeys_eq, Entries.keys_insert]
  by_cases hm : id ∈ Entries.keys assignments
  · rw [if_pos hm, if_pos hm]
  · have hfresh : propertyKey id ∉ (Entries.keys assignments).map propertyKey := by
      intro hm'
      obtain ⟨other, hother, heq⟩ := List.mem_map.mp hm'
      exact hm (propertyKey_inj.mp heq ▸ hother)
    rw [if_neg hm, if_neg hm, List.map_append, List.map_singleton, List.eraseDups_append]
    simp [List.cons_removeAll, hfresh, List.eraseDups_cons]

/-- A value that is set is read at once, whatever stood there before, and nothing changes for other
ids. An object shows it if the id was assigned at most once before, as in all assignments that were
not read from data. Otherwise the object goes on showing the last of the earlier values. -/
theorem set_values_are_read (assignments : Assignments) (id : String) (value : PropertyValue) :
    Entries.get? id (Entries.insert id value assignments) = some value ∧
    written? id (Entries.insert id value assignments) =
      (if (Entries.keys assignments).count id ≤ 1 then some value.toJson
        else assignments.written? id) ∧
    (Collected assignments →
      written? id (Entries.insert id value assignments) = some value.toJson) ∧
    (∀ other, other ≠ id →
      Entries.get? other (Entries.insert id value assignments) = Entries.get? other assignments ∧
      written? other (Entries.insert id value assignments) = assignments.written? other) ∧
    writtenKeys (Entries.insert id value assignments) =
      (if id ∈ Entries.keys assignments then assignments.writtenKeys
        else assignments.writtenKeys ++ [propertyKey id]) := by
  have hwritten : written? id (Entries.insert id value assignments) =
      (if (Entries.keys assignments).count id ≤ 1 then some value.toJson
        else assignments.written? id) := by
    rw [written?_insert]
    simp only [true_and]
  refine ⟨?_, hwritten, fun hcollected => ?_, fun other hne => ⟨?_, ?_⟩, writtenKeys_insert ..⟩
  · rw [Entries.get?_insert, if_pos rfl]
  · rw [hwritten, if_pos (List.nodup_iff_count_le_one.mp hcollected.nodup id)]
  · rw [Entries.get?_insert, if_neg (Ne.symm hne)]
  · rw [written?_insert, if_neg fun h => hne h.1.symm]

def repeatedPhase : Assignments := [("phase", .int 1), ("mood", .text "calm"), ("phase", .int 2)]

theorem collected_repeated_phase_is_shown :
    Collected (Entries.merge (Entries.ofList repeatedPhase) repeatedPhase) ∧
    written? "phase" (Entries.insert "phase" (.int 3)
      (Entries.merge (Entries.ofList repeatedPhase) repeatedPhase)) = some (.int 3) ∧
    "mood" ≠ "phase" ∧
    written? "mood" (Entries.insert "phase" (.int 3) repeatedPhase) =
      written? "mood" repeatedPhase := by
  have hcollected : Collected (Entries.merge (Entries.ofList repeatedPhase) repeatedPhase) :=
    ⟨repeatedPhase, [.extend repeatedPhase], rfl⟩
  obtain ⟨-, -, hshown, -⟩ := set_values_are_read _ "phase" (.int 3)
  obtain ⟨-, -, -, hothers, -⟩ := set_values_are_read repeatedPhase "phase" (.int 3)
  exact ⟨hcollected, hshown hcollected, by decide, (hothers "mood" (by decide)).2⟩

/-- Data can assign an id twice, and then an object does not show the value that is set. -/
theorem repeated_phase_hides_its_value :
    Form.assignments? (Json.arr [.arr [.str "phase", .obj [("Int", .int 1)]],
      .arr [.str "mood", .obj [("Str", .str "calm")]],
      .arr [.str "phase", .obj [("Int", .int 2)]]]) = some repeatedPhase ∧
    Entries.get? "phase" (Entries.insert "phase" (.int 3) repeatedPhase) = some (.int 3) ∧
    written? "phase" (Entries.insert "phase" (.int 3) repeatedPhase) = some (.int 2) := by
  refine ⟨rfl, rfl, rfl⟩

end Assignments
end EntityPack
