import EntityPack.Proofs.EventDocument
import EntityPack.Proofs.Reference

/-!
# Layers of events

The object of an event determines what the event does. Its layers cannot be taken for one
another: the last step of a choice is an object with the name `randomize`, which no event
gives to its own object, and own actions without a choice have no sequence.
-/
namespace EntityPack

theorem rel_flip {α β : Type} {R : α → β → Prop} {o : Option α} {o' : Option β}
    (h : Option.Rel R o o') : Option.Rel (fun b a => R a b) o' o := by
  cases h with
  | none => exact .none
  | some hvalue => exact .some hvalue

theorem rel_map_iff {α β : Type} {R : β → β → Prop} {f : α → β} {o o' : Option α} :
    Option.Rel R (o.map f) (o'.map f) ↔ Option.Rel (fun a b => R (f a) (f b)) o o' := by
  cases o <;> cases o' <;> simp

theorem rel_eq_iff {α : Type} {o o' : Option α} : Option.Rel Eq o o' ↔ o = o' := by
  cases o <;> cases o' <;> simp

theorem isSome_eq_of_rel {α β : Type} {R : α → β → Prop} {o : Option α} {o' : Option β}
    (h : Option.Rel R o o') : o.isSome = o'.isSome := by
  cases h <;> rfl

namespace Entries

variable {α : Type} {fields fields' : Entries α}

def Matched (same : α → α → Prop) : Entries α → Entries α → Prop :=
  List.Forall₂ fun field field' => field.1 = field'.1 ∧ same field.2 field'.2

theorem Matched.get? {same : α → α → Prop} (h : Matched same fields fields') (key : String) :
    Option.Rel same (Entries.get? key fields) (Entries.get? key fields') := by
  induction h with
  | nil => exact .none
  | @cons field field' _ _ hfield _ ih =>
    obtain ⟨name, value⟩ := field
    obtain ⟨name', value'⟩ := field'
    obtain ⟨hname, hvalue⟩ := hfield
    dsimp only at hname hvalue
    subst hname
    rw [Entries.get?, Entries.get?]
    split
    · exact .some hvalue
    · exact ih

end Entries

namespace Json

/-- The same document for a reader to whom the order of fields means nothing and a number is
what it is worth. -/
inductive Alike : Json → Json → Prop where
  | null : Alike .null .null
  | bool (value) : Alike (.bool value) (.bool value)
  | int (value) : Alike (.int value) (.int value)
  | float {value value'} : (value == value') = true → Alike (.float value) (.float value')
  | str (text) : Alike (.str text) (.str text)
  | arr {items items'} : List.Forall₂ Alike items items' → Alike (.arr items) (.arr items')
  | obj {fields fields'} :
      (∀ key, Option.Rel Alike (Entries.get? key fields) (Entries.get? key fields')) →
      Alike (.obj fields) (.obj fields')

/-- A way of comparing values by their parts. Objects with matching fields are the same, and
objects that are the same agree at least in what they hold under each name. -/
structure Comparison (same : Json → Json → Prop) : Prop where
  int {value value'} : same (.int value) (.int value') ↔ value = value'
  str {text text'} : same (.str text) (.str text') ↔ text = text'
  arr {items items'} : same (.arr items) (.arr items') ↔ List.Forall₂ same items items'
  obj {fields fields'} : Entries.Matched same fields fields' → same (.obj fields) (.obj fields')
  field {fields fields'} : same (.obj fields) (.obj fields') →
    ∀ key, Option.Rel same (Entries.get? key fields) (Entries.get? key fields')

theorem comparison_eq : Comparison Eq where
  int := Json.int.injEq .. ▸ Iff.rfl
  str := Json.str.injEq .. ▸ Iff.rfl
  arr := by
    intro items items'
    rw [List.forall₂_eq_eq_eq, Json.arr.injEq]
  obj := by
    intro fields fields' h
    have hsame : List.Forall₂ Eq fields fields' := h.imp fun _ _ hf => Prod.ext hf.1 hf.2
    rw [List.forall₂_eq_eq_eq] at hsame
    rw [hsame]
  field := by
    intro fields fields' h key
    rw [Json.obj.inj h]
    cases Entries.get? key fields' with
    | none => exact .none
    | some value => exact .some rfl

theorem comparison_alike : Comparison Alike where
  int := ⟨fun h => by cases h; rfl, fun h => h ▸ .int _⟩
  str := ⟨fun h => by cases h; rfl, fun h => h ▸ .str _⟩
  arr := ⟨fun h => by cases h with | arr hitems => exact hitems, .arr⟩
  obj h := .obj h.get?
  field h := by cases h with | obj hfields => exact hfields

theorem Comparison.flip {same : Json → Json → Prop} (hs : Comparison same) :
    Comparison fun v v' => same v' v where
  int := hs.int.trans eq_comm
  str := hs.str.trans eq_comm
  arr := hs.arr.trans ⟨List.Forall₂.flip, List.Forall₂.flip⟩
  obj h := by
    refine hs.obj (List.Forall₂.flip (h.imp fun _ _ hfield => ?_))
    exact ⟨hfield.1.symm, hfield.2⟩
  field h key := rel_flip (hs.field h key)

end Json

structure Randomizer.Agrees (same : Json → Json → Prop) (r r' : Randomizer) : Prop where
  weight : r.weight = r'.weight
  add : r.add = r'.add
  remove : r.remove = r'.remove
  properties : Option.Rel (fun p p' => same (Assignments.toJson p) (Assignments.toJson p'))
    r.properties r'.properties

/-- The same effect at every depth, up to how assignments are written. Ids are not compared. -/
inductive Event.Agrees (same : Json → Json → Prop) : Event → Event → Prop where
  | mk {ev ev' : Event} (add : ev.add = ev'.add) (remove : ev.remove = ev'.remove)
      (properties : same (Assignments.toJson ev.properties) (Assignments.toJson ev'.properties))
      (randomizers : List.Forall₂ (Randomizer.Agrees same) ev.randomizers ev'.randomizers)
      (next : ev.next = ev'.next)
      (sequential : List.Forall₂ (Agrees same) ev.sequential ev'.sequential) :
      Agrees same ev ev'

variable {same : Json → Json → Prop}

theorem forall₂_concat {α β : Type} {R : α → β → Prop} {a : α} {b : β} {as : List α}
    {bs : List β} : List.Forall₂ R (as ++ [a]) (bs ++ [b]) ↔ List.Forall₂ R as bs ∧ R a b := by
  rw [← List.forall₂_reverse_iff, List.reverse_concat', List.reverse_concat', List.forall₂_cons,
    List.forall₂_reverse_iff, and_comm]

theorem same_groupsJson (hs : Json.Comparison same) {groups groups' : List String} :
    same (groupsJson groups) (groupsJson groups') ↔ groups = groups' := by
  have hlist : same (.ofStrings groups) (.ofStrings groups') ↔ groups = groups' := by
    rw [Json.ofStrings, Json.ofStrings, hs.arr, List.forall₂_map_left_iff,
      List.forall₂_map_right_iff]
    simp only [hs.str, List.forall₂_eq_eq_eq]
  constructor
  · intro h
    exact hlist.mp (Option.rel_some_some.mp (hs.field h "component_groups"))
  · intro h
    exact hs.obj (.cons ⟨rfl, hlist.mpr h⟩ .nil)

theorem Entries.get?_optional {α β : Type} (name key : String) (f : α → β) (o : Option α) :
    Entries.get? key (o.map fun a => (name, f a)).toList =
      if name = key then o.map f else none := by
  cases o with
  | none => simp [Entries.get?]
  | some a => rfl

theorem Entries.matched_optional {α β : Type} {R : β → β → Prop} {name : String} {f : α → β}
    {o o' : Option α} (h : Option.Rel R (o.map f) (o'.map f)) :
    Entries.Matched R (o.map fun a => (name, f a)).toList (o'.map fun a => (name, f a)).toList := by
  cases o <;> cases o'
  · exact .nil
  · cases h
  · cases h
  · exact .cons ⟨rfl, Option.rel_some_some.mp h⟩ .nil

namespace Randomizer

theorem same_toJson (hs : Json.Comparison same) {r r' : Randomizer} :
    same r.toJson r'.toJson ↔ r.Agrees same r' := by
  have hgroups : ∀ {o o' : Option (List String)},
      Option.Rel same (o.map groupsJson) (o'.map groupsJson) ↔ o = o' := by
    intro o o'
    rw [rel_map_iff, ← rel_eq_iff]
    simp only [same_groupsJson hs]
  constructor
  · intro h
    have hfield := hs.field h
    have hweight := hfield "weight"
    have hadd := hfield "add"
    have hremove := hfield "remove"
    have hproperties := hfield "set_property"
    simp only [Entries.get?_append, Entries.get?_optional, Entries.get?, List.cons_append,
      List.nil_append, List.append_assoc, String.reduceEq, if_true, if_false, Option.or_none,
      Option.none_or, Option.rel_some_some] at hweight hadd hremove hproperties
    refine ⟨?_, hgroups.mp hadd, hgroups.mp hremove, rel_map_iff.mp hproperties⟩
    exact Int.ofNat.inj (hs.int.mp hweight)
  · rintro ⟨hweight, hadd, hremove, hproperties⟩
    refine hs.obj (List.rel_append (List.rel_append (List.rel_append ?_ ?_) ?_) ?_)
    · exact .cons ⟨rfl, hs.int.mpr (congrArg Int.ofNat hweight)⟩ .nil
    · exact Entries.matched_optional (hgroups.mpr hadd)
    · exact Entries.matched_optional (hgroups.mpr hremove)
    · exact Entries.matched_optional (rel_map_iff.mpr hproperties)

end Randomizer

namespace Event

variable {ev ev' : Event} {add remove add' remove' : List String} {p p' : Assignments}
  {key : String}

def own (ev : Event) : Entries Json :=
  ownAction (primary ev.add ev.remove ev.properties) ev.randomizers

def layers (ev : Event) : Entries Json :=
  if ev.sequential.isEmpty then ev.own
  else [("sequence", .arr (.obj ev.own :: ev.sequential.map toJson))]

def choice (randomizers : List Randomizer) : Json :=
  .obj [("randomize", .arr (randomizers.map Randomizer.toJson))]

theorem toJson_eq (ev : Event) : ev.toJson = .obj (ev.layers ++ (ev.next.map trigger).toList) := by
  obtain ⟨id, scope, add, remove, properties, randomizers, sequential, next⟩ := ev
  rw [toJson, toJsonAll_eq]
  cases sequential <;> rfl

theorem layers_of_nil (h : ev.sequential = []) : ev.layers = ev.own := by
  rw [layers, h]
  rfl

theorem layers_of_ne (h : ev.sequential ≠ []) :
    ev.layers = [("sequence", .arr (.obj ev.own :: ev.sequential.map toJson))] := by
  rw [layers, if_neg (mt List.isEmpty_iff.mp h)]

theorem get?_primary (key : String) : Entries.get? key (primary add remove p) =
    if key = "add" then if add.isEmpty then none else some (groupsJson add)
    else if key = "remove" then if remove.isEmpty then none else some (groupsJson remove)
    else if key = "set_property" then if p.isEmpty then none else some p.toJson
    else none := by
  unfold primary
  cases add.isEmpty <;> cases remove.isEmpty <;> cases p.isEmpty <;> grind [Entries.get?]

/-- Nothing but parts of the own action and a sequence is written besides the trigger. -/
theorem get?_layers_other (hkey : key ∉ ["add", "remove", "set_property", "sequence"]) :
    Entries.get? key ev.layers = none := by
  simp only [List.mem_cons, List.not_mem_nil, not_or, or_false] at hkey
  obtain ⟨hadd, hremove, hproperties, hsequence⟩ := hkey
  unfold layers own ownAction
  split
  · split
    · rw [get?_primary, if_neg hadd, if_neg hremove, if_neg hproperties]
    · rw [Entries.get?, if_neg (Ne.symm hsequence), Entries.get?]
  · rw [Entries.get?, if_neg (Ne.symm hsequence), Entries.get?]

theorem isEmpty_iff_forall_get? (p : Assignments) :
    p.isEmpty = true ↔ ∀ key, p.toJson.get? key = none := by
  constructor
  · intro h key
    rw [List.isEmpty_iff.mp h]
    rfl
  · intro h
    cases p with
    | nil => rfl
    | cons entry p =>
      have hkey : propertyKey entry.1 ∈ Entries.keys (Entries.ofList
          (List.map (fun entry : String × PropertyValue => (propertyKey entry.1, entry.2.toJson))
            (entry :: p))) := by
        rw [Entries.keys_ofList, List.mem_eraseDups]
        exact List.mem_cons_self ..
      rw [← Entries.isSome_get?, ← Json.get?, ← Json.ofFields, ← Assignments.toJson, h] at hkey
      cases hkey

theorem isEmpty_of_same (hs : Json.Comparison same) (h : same p.toJson p'.toJson) :
    p.isEmpty = p'.isEmpty := by
  have hnone : ∀ key, p.toJson.get? key = none ↔ p'.toJson.get? key = none := by
    intro key
    have hfield : Option.Rel same (p.toJson.get? key) (p'.toJson.get? key) := hs.field h key
    rw [← Option.not_isSome_iff_eq_none, ← Option.not_isSome_iff_eq_none, isSome_eq_of_rel hfield]
  rw [Bool.eq_iff_iff, isEmpty_iff_forall_get?, isEmpty_iff_forall_get?]
  exact forall_congr' hnone

theorem primary_agrees (hs : Json.Comparison same)
    (h : ∀ key, Option.Rel same (Entries.get? key (primary add remove p))
      (Entries.get? key (primary add' remove' p'))) :
    add = add' ∧ remove = remove' ∧ same p.toJson p'.toJson := by
  have hgroups : ∀ {groups groups' : List String},
      Option.Rel same (if groups.isEmpty then none else some (groupsJson groups))
        (if groups'.isEmpty then none else some (groupsJson groups')) → groups = groups' := by
    intro groups groups' h
    cases groups <;> cases groups'
    · rfl
    · cases h
    · cases h
    · exact (same_groupsJson hs).mp (Option.rel_some_some.mp h)
  have hadd := h "add"
  have hremove := h "remove"
  have hproperties := h "set_property"
  simp only [get?_primary, String.reduceEq, if_true, if_false] at hadd hremove hproperties
  refine ⟨hgroups hadd, hgroups hremove, ?_⟩
  cases p <;> cases p'
  · exact hs.obj .nil
  · cases hproperties
  · cases hproperties
  · exact Option.rel_some_some.mp hproperties

theorem matched_primary (hs : Json.Comparison same) (h : same p.toJson p'.toJson) :
    Entries.Matched same (primary add remove p) (primary add remove p') := by
  have hgroups : ∀ (name : String) (groups : List String), Entries.Matched same
      (if groups.isEmpty then [] else [(name, groupsJson groups)])
      (if groups.isEmpty then [] else [(name, groupsJson groups)]) := by
    intro name groups
    split
    · exact .nil
    · exact .cons ⟨rfl, (same_groupsJson hs).mpr rfl⟩ .nil
  refine List.rel_append (List.rel_append (hgroups "add" add) (hgroups "remove" remove)) ?_
  rw [isEmpty_of_same hs h]
  split
  · exact .nil
  · exact .cons ⟨rfl, h⟩ .nil

theorem same_step (hs : Json.Comparison same) {field field' : String × Json} :
    same (.obj [field]) (.obj [field']) ↔ field.1 = field'.1 ∧ same field.2 field'.2 := by
  constructor
  · intro h
    have hfield := hs.field h field.1
    rw [Entries.get?, if_pos rfl, Entries.get?] at hfield
    split at hfield
    · rename_i hname
      exact ⟨hname.symm, Option.rel_some_some.mp hfield⟩
    · cases hfield
  · intro h
    exact hs.obj (.cons h .nil)

theorem same_choice (hs : Json.Comparison same) {rs rs' : List Randomizer} :
    same (choice rs) (choice rs') ↔ List.Forall₂ (Randomizer.Agrees same) rs rs' := by
  rw [choice, choice, same_step hs, hs.arr, List.forall₂_map_left_iff, List.forall₂_map_right_iff]
  simp only [true_and, Randomizer.same_toJson hs]

theorem ownAction_nil (parts : Entries Json) : ownAction parts [] = parts := rfl

theorem ownAction_cons (parts : Entries Json) (r : Randomizer) (rs : List Randomizer) :
    ownAction parts (r :: rs) =
      [("sequence", .arr (parts.map (fun part => .obj [part]) ++ [choice (r :: rs)]))] := rfl

theorem same_steps (hs : Json.Comparison same) {parts parts' : Entries Json}
    {rs rs' : List Randomizer} :
    same (.arr (parts.map (fun part => .obj [part]) ++ [choice rs]))
      (.arr (parts'.map (fun part => .obj [part]) ++ [choice rs'])) ↔
    Entries.Matched same parts parts' ∧ List.Forall₂ (Randomizer.Agrees same) rs rs' := by
  rw [hs.arr, forall₂_concat, same_choice hs, List.forall₂_map_left_iff,
    List.forall₂_map_right_iff]
  simp only [same_step hs]
  rfl

theorem ownAction_agrees (hs : Json.Comparison same) {parts parts' : Entries Json}
    {rs rs' : List Randomizer} (hp : Entries.get? "sequence" parts = none)
    (hp' : Entries.get? "sequence" parts' = none)
    (h : ∀ key, Option.Rel same (Entries.get? key (ownAction parts rs))
      (Entries.get? key (ownAction parts' rs'))) :
    (∀ key, Option.Rel same (Entries.get? key parts) (Entries.get? key parts')) ∧
      List.Forall₂ (Randomizer.Agrees same) rs rs' := by
  have hsequence := h "sequence"
  cases rs with
  | nil =>
    cases rs' with
    | nil => exact ⟨h, .nil⟩
    | cons r' rs' =>
      rw [ownAction_nil, hp] at hsequence
      cases hsequence
  | cons r rs =>
    cases rs' with
    | nil =>
      rw [ownAction_nil, hp'] at hsequence
      cases hsequence
    | cons r' rs' =>
      obtain ⟨hparts, hrs⟩ := (same_steps hs).mp (Option.rel_some_some.mp hsequence)
      exact ⟨hparts.get?, hrs⟩

theorem matched_ownAction (hs : Json.Comparison same) {parts parts' : Entries Json}
    {rs rs' : List Randomizer} (hparts : Entries.Matched same parts parts')
    (hrs : List.Forall₂ (Randomizer.Agrees same) rs rs') :
    Entries.Matched same (ownAction parts rs) (ownAction parts' rs') := by
  cases hrs with
  | nil => exact hparts
  | cons hr hrs => exact .cons ⟨rfl, (same_steps hs).mpr ⟨hparts, .cons hr hrs⟩⟩ .nil

/-- The last step of an own action with options is no event. -/
theorem not_same_choice (hs : Json.Comparison same) (rs : List Randomizer) (ev : Event) :
    ¬ same (choice rs) ev.toJson := by
  intro h
  rw [toJson_eq] at h
  have hfield := hs.field h "randomize"
  rw [Entries.get?_append, get?_layers_other (by decide)] at hfield
  have htrigger : Entries.get? "randomize" (ev.next.map trigger).toList = none := by
    cases ev.next <;> rfl
  rw [htrigger] at hfield
  cases hfield

/-- An own action is not taken for a sequence with sub-events. -/
theorem not_sequence_of_own (hs : Json.Comparison same) (hsub : ev'.sequential ≠ []) :
    ¬ ∀ key, Option.Rel same (Entries.get? key ev.own) (Entries.get? key ev'.layers) := by
  intro h
  have hsequence := h "sequence"
  -- The last steps differ: a choice in the one, a sub-event in the other.
  obtain hnil | ⟨subs, sub, hconcat⟩ := List.eq_nil_or_concat' ev'.sequential
  · exact hsub hnil
  have hlayers : Entries.get? "sequence" ev'.layers =
      some (.arr ((.obj ev'.own :: subs.map toJson) ++ [sub.toJson])) := by
    rw [layers_of_ne hsub, Entries.get?, if_pos rfl, hconcat, List.map_append]
    rfl
  rw [hlayers, own] at hsequence
  cases hrs : ev.randomizers with
  | nil =>
    rw [hrs, ownAction_nil, get?_primary_sequence] at hsequence
    cases hsequence
  | cons r rs =>
    rw [hrs, ownAction_cons] at hsequence
    have hsteps := hs.arr.mp (Option.rel_some_some.mp hsequence)
    exact not_same_choice hs (r :: rs) sub (forall₂_concat.mp hsteps).2

theorem layers_agree (hs : Json.Comparison same)
    (h : ∀ key, Option.Rel same (Entries.get? key ev.layers) (Entries.get? key ev'.layers)) :
    (∀ key, Option.Rel same (Entries.get? key ev.own) (Entries.get? key ev'.own)) ∧
      List.Forall₂ same (ev.sequential.map toJson) (ev'.sequential.map toJson) := by
  by_cases hsub : ev.sequential = []
  · by_cases hsub' : ev'.sequential = []
    · rw [layers_of_nil hsub, layers_of_nil hsub'] at h
      rw [hsub, hsub']
      exact ⟨h, .nil⟩
    · rw [layers_of_nil hsub] at h
      exact (not_sequence_of_own hs hsub' h).elim
  · by_cases hsub' : ev'.sequential = []
    · rw [layers_of_nil hsub'] at h
      exact (not_sequence_of_own hs.flip hsub fun key => rel_flip (h key)).elim
    · have hsequence := h "sequence"
      rw [layers_of_ne hsub, layers_of_ne hsub'] at hsequence
      obtain ⟨hown, hsubs⟩ :=
        List.forall₂_cons.mp (hs.arr.mp (Option.rel_some_some.mp hsequence))
      exact ⟨hs.field hown, hsubs⟩

theorem matched_layers (hs : Json.Comparison same) (hown : Entries.Matched same ev.own ev'.own)
    (hsubs : List.Forall₂ same (ev.sequential.map toJson) (ev'.sequential.map toJson)) :
    Entries.Matched same ev.layers ev'.layers := by
  have hlength := hsubs.length_eq
  rw [List.length_map, List.length_map] at hlength
  by_cases hsub : ev.sequential = []
  · have hsub' : ev'.sequential = [] := by
      rwa [hsub, List.length_nil, eq_comm, List.length_eq_zero_iff] at hlength
    rwa [layers_of_nil hsub, layers_of_nil hsub']
  · have hsub' : ev'.sequential ≠ [] := by
      rwa [ne_eq, ← List.length_eq_zero_iff, ← hlength, List.length_eq_zero_iff]
    rw [layers_of_ne hsub, layers_of_ne hsub']
    exact .cons ⟨rfl, hs.arr.mpr (.cons (hs.obj hown) hsubs)⟩ .nil

theorem get?_trigger (ev : Event) (key : String) : Entries.get? key (ev.next.map trigger).toList =
    if "trigger" = key then ev.next.map fun event => (trigger event).2 else none :=
  Entries.get?_optional "trigger" key (fun event => (trigger event).2) ev.next

theorem same_next (hs : Json.Comparison same) : Option.Rel same
    (ev.next.map fun event => (trigger event).2) (ev'.next.map fun event => (trigger event).2) ↔
    ev.next = ev'.next := by
  have hbody : ∀ event event', same (trigger event).2 (trigger event').2 ↔ event = event' := by
    intro event event'
    constructor
    · intro h
      exact hs.str.mp (Option.rel_some_some.mp (hs.field h "event"))
    · intro h
      exact hs.obj (.cons ⟨rfl, hs.str.mpr h⟩ (.cons ⟨rfl, hs.str.mpr rfl⟩ .nil))
  rw [rel_map_iff, ← rel_eq_iff]
  simp only [hbody]

/-- The trigger is told from the layers by its name. -/
theorem layers_and_next (hs : Json.Comparison same) (h : same ev.toJson ev'.toJson) :
    (∀ key, Option.Rel same (Entries.get? key ev.layers) (Entries.get? key ev'.layers)) ∧
      ev.next = ev'.next := by
  rw [toJson_eq, toJson_eq] at h
  have hbare : ∀ ev : Event, Entries.get? "trigger" ev.layers = none :=
    fun ev => get?_layers_other (by decide)
  have hfield := hs.field h
  simp only [Entries.get?_append, get?_trigger] at hfield
  refine ⟨fun key => ?_, ?_⟩
  · by_cases hkey : "trigger" = key
    · rw [← hkey, hbare, hbare]
      exact .none
    · have hlayers := hfield key
      rwa [if_neg hkey, if_neg hkey, Option.or_none, Option.or_none] at hlayers
  · have htrigger := hfield "trigger"
    rw [hbare, hbare, if_pos rfl, if_pos rfl, Option.none_or, Option.none_or] at htrigger
    exact (same_next hs).mp htrigger

theorem same_toJson_parts (hs : Json.Comparison same) : same ev.toJson ev'.toJson ↔
    (ev.add = ev'.add ∧ ev.remove = ev'.remove ∧
      same ev.properties.toJson ev'.properties.toJson) ∧
    List.Forall₂ (Randomizer.Agrees same) ev.randomizers ev'.randomizers ∧ ev.next = ev'.next ∧
    List.Forall₂ same (ev.sequential.map toJson) (ev'.sequential.map toJson) := by
  constructor
  · intro h
    obtain ⟨hlayers, hnext⟩ := layers_and_next hs h
    obtain ⟨hown, hsequential⟩ := layers_agree hs hlayers
    obtain ⟨hparts, hrandomizers⟩ :=
      ownAction_agrees hs get?_primary_sequence get?_primary_sequence hown
    exact ⟨primary_agrees hs hparts, hrandomizers, hnext, hsequential⟩
  · rintro ⟨⟨hadd, hremove, hproperties⟩, hrandomizers, hnext, hsequential⟩
    have hown : Entries.Matched same ev.own ev'.own := by
      rw [own, own, hadd, hremove]
      exact matched_ownAction hs (matched_primary hs hproperties) hrandomizers
    rw [toJson_eq, toJson_eq]
    exact hs.obj (List.rel_append (matched_layers hs hown hsequential)
      (Entries.matched_optional ((same_next hs).mpr hnext)))

-- By the sub-events of the first event. Lists of different lengths are told apart on both sides.
mutual
theorem same_toJson (hs : Json.Comparison same) : ∀ ev ev' : Event,
    same ev.toJson ev'.toJson ↔ ev.Agrees same ev'
  | ⟨_, _, _, _, _, _, sequential, _⟩, ev' => by
    rw [same_toJson_parts hs, all_same_toJson hs sequential ev'.sequential]
    constructor
    · rintro ⟨⟨hadd, hremove, hproperties⟩, hrandomizers, hnext, hsequential⟩
      exact .mk hadd hremove hproperties hrandomizers hnext hsequential
    · rintro ⟨hadd, hremove, hproperties, hrandomizers, hnext, hsequential⟩
      exact ⟨⟨hadd, hremove, hproperties⟩, hrandomizers, hnext, hsequential⟩
theorem all_same_toJson (hs : Json.Comparison same) : ∀ evs evs' : List Event,
    List.Forall₂ same (evs.map toJson) (evs'.map toJson) ↔ List.Forall₂ (Agrees same) evs evs'
  | [], [] => ⟨fun _ => .nil, fun _ => .nil⟩
  | [], _ :: _ => by simp
  | _ :: _, [] => by simp
  | ev :: evs, ev' :: evs' => by
    rw [List.map_cons, List.map_cons, List.forall₂_cons, List.forall₂_cons, same_toJson hs ev ev',
      all_same_toJson hs evs evs']
end

/-- Two events are written as the same object exactly if they add, remove and assign the same,
offer the same options, trigger the same event and run sub-events that agree likewise. -/
theorem objects_tell_events_apart (ev ev' : Event) :
    (ev.toJson = ev'.toJson ↔ ev.Agrees Eq ev') ∧
    (ev.toJson.Alike ev'.toJson ↔ ev.Agrees Json.Alike ev') :=
  ⟨same_toJson Json.comparison_eq ev ev', same_toJson Json.comparison_alike ev ev'⟩

end Event
end EntityPack
