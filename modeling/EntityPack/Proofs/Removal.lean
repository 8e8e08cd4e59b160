import EntityPack.Proofs.Outline
import EntityPack.Proofs.Resolution

/-!
# Growth of remove-lists

Operations only ever add to the remove-lists of events. What an operation adds is told by
the ids of the events; what a resolution adds is told by the registry.
-/
namespace EntityPack

def RemovesAt (events : List Event) (i : Nat) (group : String) : Prop :=
  ∃ ev, events[i]? = some ev ∧ group ∈ ev.remove

def ReachesAt (f : String → String) (events : List Event) (i : Nat) (group : String) : Prop :=
  ∃ g, RemovesAt events i g ∧ f g = group

/-- The registry asks the event at a position, the first one of its id, to remove the group. -/
def Registry.DueAt (r : Registry) (ids : List String) (i : Nat) (group : String) : Prop :=
  ∃ id, ids[i]? = some id ∧ ids.idxOf id = i ∧ r.Partner id group

/-- The later events are the earlier ones and those of the new ids. They remove what the
earlier ones removed and what `gain` says. -/
structure Gains (events events' : List Event) (ids : List String)
    (gain : Nat → String → Prop) : Prop where
  ids : events'.map Event.fullId = events.map Event.fullId ++ ids
  removes : ∀ i group, RemovesAt events' i group ↔ RemovesAt events i group ∨ gain i group

def gainAt (ids : List String) (id : String) (groups : List String) (i : Nat)
    (group : String) : Prop :=
  ids.idxOf id = i ∧ i < ids.length ∧ group ∈ groups

def gainBehind (ids : List String) (added : List Event) (i : Nat) (group : String) : Prop :=
  ids.length ≤ i ∧ RemovesAt added (i - ids.length) group

variable {events events' events'' : List Event} {ids ids' : List String}
  {gain gain' : Nat → String → Prop} {r r' : Registry} {branches : List ResolvedBranch}

/-- What is due stays due as the registry and the events grow. -/
theorem Registry.DueAt.mono {i : Nat} {group : String} (h : r.DueAt ids i group)
    (hx : r.Extends r') (hs : r.Sound) (hs' : r'.Sound) (added : List String) :
    r'.DueAt (ids ++ added) i group := by
  obtain ⟨id, hid, hfirst, s, t, hc, hne, hends⟩ := h
  have hlt := (List.getElem?_eq_some_iff.mp hid).1
  refine ⟨id, ?_, ?_, s, t, hx.connects hs hs' hc, hne, hends⟩
  · rw [List.getElem?_append_left hlt, hid]
  · rw [List.idxOf_append_of_mem (List.mem_of_getElem? hid), hfirst]

namespace Gains

theorem reaches {f : String → String} (h : Gains events events' ids gain) (i : Nat)
    (group : String) : ReachesAt f events' i group ↔
      ReachesAt f events i group ∨ ∃ g, gain i g ∧ f g = group := by
  unfold ReachesAt
  simp only [h.removes, or_and_right, exists_or]

theorem nothing (h : events' = events) : Gains events events' [] fun _ _ => False := by
  subst h
  exact ⟨(List.append_nil _).symm, by simp⟩

theorem trans (h : Gains events events' ids gain) (h' : Gains events' events'' ids' gain') :
    Gains events events'' (ids ++ ids') fun i group => gain i group ∨ gain' i group where
  ids := by rw [h'.ids, h.ids, List.append_assoc]
  removes i group := by rw [h'.removes, h.removes, or_assoc]

theorem append (events added : List Event) :
    Gains events (events ++ added) (added.map Event.fullId)
      (gainBehind (events.map Event.fullId) added) where
  ids := List.map_append
  removes i group := by
    unfold gainBehind RemovesAt
    rw [List.length_map]
    rcases Nat.lt_or_ge i events.length with hlt | hge
    · rw [List.getElem?_append_left hlt]
      simp [Nat.not_le_of_lt hlt]
    · rw [List.getElem?_append_right hge, List.getElem?_eq_none hge]
      simp [hge]

theorem modifyFirst {g : Event → Event} {groups : List String}
    (hid : ∀ ev, (g ev).fullId = ev.fullId)
    (hg : ∀ ev group, group ∈ (g ev).remove ↔ group ∈ ev.remove ∨ group ∈ groups)
    (id : String) (events : List Event) :
    Gains events (modifyFirst (·.fullId == id) g events) []
      (gainAt (events.map Event.fullId) id groups) where
  ids := by rw [map_modifyFirst _ hid, List.append_nil]
  removes i group := by
    unfold gainAt RemovesAt
    rw [modifyFirst_eq_modify, List.getElem?_modify, List.length_map]
    cases hev : events[i]? with
    | none =>
      have hlen := List.getElem?_eq_none_iff.mp hev
      simp [Nat.not_lt_of_le hlen]
    | some ev =>
      have hlt := (List.getElem?_eq_some_iff.mp hev).1
      by_cases hi : (events.map Event.fullId).idxOf id = i
      · simp [hi, hlt, hg]
      · simp [hi]

end Gains

def SameGains (events₁ events₁' events₂ events₂' : List Event) : Prop :=
  ∃ ids gain, Gains events₁ events₁' ids gain ∧ Gains events₂ events₂' ids gain

namespace SameGains

variable {events₁ events₁' events₁'' events₂ events₂' events₂'' : List Event}

theorem same_ids (h : SameGains events₁ events₁' events₂ events₂')
    (hids : events₁.map Event.fullId = events₂.map Event.fullId) :
    events₁'.map Event.fullId = events₂'.map Event.fullId := by
  obtain ⟨ids, gain, h₁, h₂⟩ := h
  rw [h₁.ids, h₂.ids, hids]

theorem nothing (h₁ : events₁' = events₁) (h₂ : events₂' = events₂) :
    SameGains events₁ events₁' events₂ events₂' :=
  ⟨_, _, .nothing h₁, .nothing h₂⟩

theorem trans (h : SameGains events₁ events₁' events₂ events₂')
    (h' : SameGains events₁' events₁'' events₂' events₂'') :
    SameGains events₁ events₁'' events₂ events₂'' := by
  obtain ⟨ids, gain, h₁, h₂⟩ := h
  obtain ⟨ids', gain', h₁', h₂'⟩ := h'
  exact ⟨_, _, h₁.trans h₁', h₂.trans h₂'⟩

variable (hids : events₁.map Event.fullId = events₂.map Event.fullId)

include hids

theorem append (added : List Event) :
    SameGains events₁ (events₁ ++ added) events₂ (events₂ ++ added) :=
  ⟨_, _, .append events₁ added, hids ▸ .append events₂ added⟩

theorem modifyFirst {g : Event → Event} {groups : List String}
    (hid : ∀ ev, (g ev).fullId = ev.fullId)
    (hg : ∀ ev group, group ∈ (g ev).remove ↔ group ∈ ev.remove ∨ group ∈ groups)
    (id : String) :
    SameGains events₁ (EntityPack.modifyFirst (·.fullId == id) g events₁)
      events₂ (EntityPack.modifyFirst (·.fullId == id) g events₂) :=
  ⟨_, _, .modifyFirst hid hg id events₁, hids ▸ .modifyFirst hid hg id events₂⟩

end SameGains

namespace Event

def Edit.removes : Edit → List String
  | .removeGroups groups => groups
  | .ensureRemoves group => [group]
  | _ => []

theorem mem_remove_ensureRemoves (g : String) (ev : Event) (group : String) :
    group ∈ (ev.ensureRemoves g).remove ↔ group ∈ ev.remove ∨ group ∈ [g] := by
  rw [ensureRemoves_eq]
  by_cases h : g ∈ ev.remove
  · rw [if_pos h, List.append_nil, List.mem_singleton]
    exact ⟨Or.inl, fun hor => hor.elim (fun hm => hm) fun heq => heq ▸ h⟩
  · rw [if_neg h, List.mem_append]

theorem mem_remove_edit (change : Edit) (ev : Event) (group : String) :
    group ∈ (ev.edit change).remove ↔ group ∈ ev.remove ∨ group ∈ change.removes := by
  cases change with
  | ensureRemoves g => exact mem_remove_ensureRemoves g ev group
  | removeGroups groups => exact List.mem_append
  | _ => simp [edit, Edit.removes, addGroups, addRandomizers, addSequential, setProperty,
      setProperties]

end Event

theorem SameGains.extend (h : events.map Event.fullId = events'.map Event.fullId) (id : StateId)
    (s : LoopState) {b b' : Behavior} (hb : b.events = events) (hb' : b'.events = events') :
    SameGains events (s.extend id b).events events' (s.extend id b').events := by
  subst hb hb'
  have hadd := SameGains.append h [s.event id]
  unfold LoopState.extend
  split
  · exact hadd.trans (.modifyFirst (hadd.same_ids h) (Event.fullId_ensureRemoves id.label)
      (Event.mem_remove_ensureRemoves id.label) _)
  · exact hadd

namespace Entity

variable {e e₁ e₂ : Entity} {f : String → String}

/-- No event that has been added gets another scope, and with it another id. Every operation
of the entity itself is of this kind, and every direct edit of its behavior file but one. -/
def Operation.KeepsIds : Operation → Prop
  | .editBehavior (.changeEvent _ (.setScope _)) => False
  | _ => True

def eventIds (e : Entity) : List String := e.behavior.events.map Event.fullId

theorem eventIds_outline (e : Entity) : (e.outline f).eventIds = e.eventIds := by
  simp [eventIds, outline, Behavior.outline, Event.fullId_outline, Function.comp_def]

theorem events_setId (id : String) (e : Entity) :
    (after e (.setId id)).behavior.events = e.behavior.events := by
  change (setId id e).behavior.events = _
  simp only [setId]
  split <;> rfl

/-- Where outlines agree, an operation adds the same to the remove-lists. -/
theorem sameGains_after {op : Operation} (hk : op.KeepsIds) (hr : op ≠ .resolveBranches)
    (hb : op ≠ .build) (h : e₁.outline f = e₂.outline f) :
    SameGains e₁.behavior.events (after e₁ op).behavior.events
      e₂.behavior.events (after e₂ op).behavior.events := by
  have hids : e₁.eventIds = e₂.eventIds := by
    rw [← eventIds_outline (f := f), h, eventIds_outline]
  cases op with
  | setId id => exact .nothing (events_setId id e₁) (events_setId id e₂)
  | createController kind suffix initial => cases kind <;> exact .nothing rfl rfl
  | addController kind controller => cases kind <;> exact .nothing rfl rfl
  | addEvent event => exact .append hids [event]
  | addControllerState kind index state =>
    rw [after_addControllerState, after_addControllerState]
    cases kind <;> exact .nothing rfl rfl
  | addLoopState s =>
    have hcheck : checkLoopState s e₁ = checkLoopState s e₂ := by
      rw [← checkLoopState_outline (f := f), h, checkLoopState_outline]
    have hnext : e₁.nextState = e₂.nextState := by
      have hsame := congrArg nextState h
      exact hsame
    cases hc : checkLoopState s e₁ with
    | error c =>
      rw [after_refused hc, after_refused (hcheck ▸ hc)]
      exact .nothing rfl rfl
    | ok u =>
      rw [after_accepted (checkLoopState_ok.mp hc),
        after_accepted (checkLoopState_ok.mp (hcheck ▸ hc))]
      unfold withLoopState
      rw [← hnext]
      exact .extend hids e₁.nextState s rfl rfl
  | resolveBranches => exact (hr rfl).elim
  | build => exact (hb rfl).elim
  | editBehavior edit =>
    cases edit with
    | addEvent event => exact .append hids [event]
    | changeEvent id change =>
      have hkeep : ∀ ev : Event, (ev.edit change).fullId = ev.fullId := by
        intro ev
        cases change with
        | setScope scope => exact hk.elim
        | ensureRemoves group => exact Event.fullId_ensureRemoves group ev
        | _ => rfl
      exact .modifyFirst hids hkeep (Event.mem_remove_edit change) id
    | _ => exact .nothing rfl rfl
  | _ => exact .nothing rfl rfl

theorem events_withResolved (branches : List ResolvedBranch) (e : Entity) :
    (e.withResolved branches).behavior.events =
      (Branch.sew (Branch.seams branches) e.behavior.events).map
        (·.mapReferences (Branch.substituteId branches)) := by
  simp only [withResolved, Branch.resolveBehavior, Branch.stitchAll_eq, Branch.sewn]

/-- Resolution rewrites what was removed and adds what the registry asks for. -/
theorem removesAt_withResolved (hs : e.branches.Sound) (h : e.branches.resolved = .ok branches)
    (i : Nat) (group : String) :
    RemovesAt (e.withResolved branches).behavior.events i group ↔
      ReachesAt (Branch.substituteId branches) e.behavior.events i group ∨
        e.branches.DueAt e.eventIds i group := by
  have hstitched := Branch.stitched_sew h e.behavior.events
  unfold ReachesAt RemovesAt Registry.DueAt eventIds
  rw [events_withResolved, List.getElem?_map]
  cases hev : e.behavior.events[i]? with
  | none => simp [hstitched.event?_none hev, hev]
  | some ev =>
    obtain ⟨added, hget, -, hadded⟩ := hstitched.event i ev hev
    have hlabel : ∀ g, e.branches.Partner ev.fullId g → Branch.substituteId branches g = g := by
      intro g hp
      obtain ⟨k, rfl⟩ := hp.eq_label
      exact Branch.substituteId_label hs h k
    simp only [hget, hev, Option.map_some, Option.some.injEq, exists_eq_left',
      Event.remove_mapReferences, List.mem_map, List.mem_append, hadded, List.getElem?_map]
    constructor
    · rintro ⟨g, hg | ⟨-, hp, hi⟩, rfl⟩
      · exact Or.inl ⟨g, hg, rfl⟩
      · rw [hlabel g hp]
        exact Or.inr ⟨hi, hp⟩
    · rintro (⟨g, hg, rfl⟩ | ⟨hi, hp⟩)
      · exact ⟨g, Or.inl hg, rfl⟩
      · by_cases hg : group ∈ ev.remove
        · exact ⟨group, Or.inl hg, hlabel group hp⟩
        · exact ⟨group, Or.inr ⟨hg, hp, hi⟩, hlabel group hp⟩

end Entity
end EntityPack
