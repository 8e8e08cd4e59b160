import EntityPack.Proofs.Removal
import EntityPack.Proofs.Timer

/-!
# Generated ids

A new entity and every accepted loop state write ids into events and timers that are none of
the names a caller gives. Events and groups keep their places from then on and their lists of
references grow at the ends, so such an id can be told by its place. Resolution rewrites
references wherever they came from; it leaves the ids of states, which are no names.
-/
namespace EntityPack

/-- Events and groups keep their places, and lists of references, rewritten by `f`, grow at
their ends. -/
structure Behavior.Grows (f : String → String) (b b' : Behavior) : Prop where
  events : ∀ (i : Nat) (ev : Event), b.events[i]? = some ev → ∃ ev' : Event,
    b'.events[i]? = some ev' ∧ ev'.id = ev.id ∧
    ev.add.map f <+: ev'.add ∧ ev.remove.map f <+: ev'.remove
  groups : ∀ (i : Nat) (g : ComponentGroup), b.groups[i]? = some g →
    b'.groups[i]? = some (g.mapText f)

namespace Component

theorem get?_mapTextFields (f : String → String) (key : String) (fields : Entries Json) :
    Entries.get? key (Json.mapTextFields f fields) =
      (Entries.get? key fields).map (·.mapText f) := by
  induction fields with
  | nil => rfl
  | cons field fields ih =>
    obtain ⟨name, value⟩ := field
    rw [Json.mapTextFields, Entries.get?, Entries.get?, ih]
    split <;> rfl

theorem timerEvent?_mapText (f : String → String) (c : Component) :
    (c.mapText f).timerEvent? = c.timerEvent?.map f := by
  unfold timerEvent? mapText
  by_cases hkind : c.kind = timerKind
  · rw [if_pos hkind, if_pos hkind, get?_mapTextFields]
    cases Entries.get? "time_down_event" c.body with
    | none => rfl
    | some field =>
      cases field with
      | obj fields =>
        simp only [Option.map_some, Option.bind_eq_bind, Option.bind_some, Json.mapText, Json.get?,
          get?_mapTextFields]
        cases Entries.get? "event" fields with
        | none => rfl
        | some event => cases event <;> rfl
      | _ => rfl
  · rw [if_neg hkind, if_neg hkind]
    rfl

end Component

namespace Behavior

variable {f g : String → String} {b b' b'' : Behavior}

theorem Grows.trans (h : Grows f b b') (h' : Grows g b' b'') : Grows (g ∘ f) b b'' where
  events i ev hev := by
    obtain ⟨ev', hev', hid, hadd, hremove⟩ := h.events i ev hev
    obtain ⟨ev'', hev'', hid', hadd', hremove'⟩ := h'.events i ev' hev'
    refine ⟨ev'', hev'', hid'.trans hid, ?_, ?_⟩
    · rw [← List.map_map]
      exact (hadd.map g).trans hadd'
    · rw [← List.map_map]
      exact (hremove.map g).trans hremove'
  groups i group hgroup := by
    rw [← ComponentGroup.mapText_mapText]
    exact h'.groups i _ (h.groups i group hgroup)

theorem grows_of_append {events : List Event} {groups : List ComponentGroup}
    (he : b'.events = b.events ++ events) (hg : b'.groups = b.groups ++ groups) :
    Grows (fun id => id) b b' where
  events i ev hev := by
    refine ⟨ev, ?_, rfl, ?_⟩
    · rw [he, List.getElem?_append_left (List.getElem?_eq_some_iff.mp hev).1, hev]
    · rw [List.map_id', List.map_id']
      exact ⟨List.prefix_refl _, List.prefix_refl _⟩
  groups i group hgroup := by
    rw [hg, List.getElem?_append_left (List.getElem?_eq_some_iff.mp hgroup).1, hgroup,
      ComponentGroup.mapText_id]

theorem grows_of_eq (he : b'.events = b.events) (hg : b'.groups = b.groups) :
    Grows (fun id => id) b b' :=
  grows_of_append (he.trans (List.append_nil _).symm) (hg.trans (List.append_nil _).symm)

theorem grows_of_modifyFirst {p : Event → Bool} {change : Event → Event}
    (hchange : ∀ ev, (change ev).id = ev.id ∧ ev.add <+: (change ev).add ∧
      ev.remove <+: (change ev).remove)
    (he : b'.events = modifyFirst p change b.events) (hg : b'.groups = b.groups) :
    Grows (fun id => id) b b' where
  events := by
    simp only [List.map_id', he]
    have hkeep : ∀ ev : Event, ev.id = ev.id ∧ ev.add <+: ev.add ∧ ev.remove <+: ev.remove :=
      fun ev => ⟨rfl, List.prefix_refl _, List.prefix_refl _⟩
    induction b.events with
    | nil =>
      intro i ev hev
      cases hev
    | cons ev evs ih =>
      intro i ev' hev
      unfold modifyFirst
      cases i with
      | zero =>
        obtain rfl : ev = ev' := Option.some.inj hev
        split
        · exact ⟨_, rfl, hchange ev⟩
        · exact ⟨_, rfl, hkeep ev⟩
      | succ i =>
        split
        · exact ⟨ev', hev, hkeep ev'⟩
        · exact ih i ev' hev
  groups i group hgroup := by rw [hg, hgroup, ComponentGroup.mapText_id]

end Behavior

namespace Event

theorem ensureRemoves_grows (group : String) (ev : Event) : (ev.ensureRemoves group).id = ev.id ∧
    ev.add <+: (ev.ensureRemoves group).add ∧ ev.remove <+: (ev.ensureRemoves group).remove := by
  rw [ensureRemoves_eq]
  exact ⟨rfl, List.prefix_refl _, List.prefix_append _ _⟩

theorem edit_grows (change : Edit) (ev : Event) : (ev.edit change).id = ev.id ∧
    ev.add <+: (ev.edit change).add ∧ ev.remove <+: (ev.edit change).remove := by
  cases change with
  | ensureRemoves group => exact ensureRemoves_grows group ev
  | addGroups groups => exact ⟨rfl, List.prefix_append _ _, List.prefix_refl _⟩
  | removeGroups groups => exact ⟨rfl, List.prefix_refl _, List.prefix_append _ _⟩
  | _ => exact ⟨rfl, List.prefix_refl _, List.prefix_refl _⟩

end Event

namespace Entity

inductive Place where
  | added (event slot : Nat)
  | removed (event slot : Nat)
  | expiry (group component : Nat)
  deriving DecidableEq, Repr

def reference? (e : Entity) : Place → Option String
  | .added i j => e.behavior.events[i]?.bind (·.add[j]?)
  | .removed i j => e.behavior.events[i]?.bind (·.remove[j]?)
  | .expiry i j => (e.behavior.groups[i]?.bind (·.components[j]?)).bind Component.timerEvent?

/-- Accepting the loop state puts the id of the state at the place. -/
inductive Generates (e : Entity) (s : LoopState) : Place → StateId → Prop where
  | own : Generates e s (.added e.behavior.events.length 0) e.nextState
  | previous {k} : e.nextState.prev? = some k →
      Generates e s (.removed e.behavior.events.length 0) k
  | closing {ev} : s.last = true → e.nextState.isFirst = false →
      e.behavior.event? StateId.first.label = some ev →
      Generates e s (.removed (e.eventIds.idxOf StateId.first.label)
        (ev.remove.idxOf e.nextState.label)) e.nextState
  | next : s.timer.isSome = true → s.timerBranch = none → s.last = false →
      Generates e s (.expiry e.behavior.groups.length 1) e.nextState.next
  | first : s.timer.isSome = true → s.timerBranch = none → s.last = true →
      Generates e s (.expiry e.behavior.groups.length 1) .first

variable {f : String → String} {e e' : Entity} {op : Operation} {s : LoopState} {p : Place}
  {k : StateId} {text : String} {branches : List ResolvedBranch}

theorem reference?_grows (hb : e.behavior.Grows f e'.behavior) (h : e.reference? p = some text) :
    e'.reference? p = some (f text) := by
  have slot : ∀ {items items' : List String} {j : Nat}, items.map f <+: items' →
      items[j]? = some text → items'[j]? = some (f text) := by
    rintro items _ j ⟨rest, rfl⟩ hj
    have hlt := (List.getElem?_eq_some_iff.mp hj).1
    rw [List.getElem?_append_left (by rwa [List.length_map]), List.getElem?_map, hj,
      Option.map_some]
  cases p with
  | added i j =>
    obtain ⟨ev, hev, hj⟩ := Option.bind_eq_some_iff.mp h
    obtain ⟨ev', hev', -, hadd, -⟩ := hb.events i ev hev
    exact Option.bind_eq_some_iff.mpr ⟨ev', hev', slot hadd hj⟩
  | removed i j =>
    obtain ⟨ev, hev, hj⟩ := Option.bind_eq_some_iff.mp h
    obtain ⟨ev', hev', -, -, hremove⟩ := hb.events i ev hev
    exact Option.bind_eq_some_iff.mpr ⟨ev', hev', slot hremove hj⟩
  | expiry i j =>
    obtain ⟨c, hc, htimer⟩ := Option.bind_eq_some_iff.mp h
    obtain ⟨g, hg, hj⟩ := Option.bind_eq_some_iff.mp hc
    have hmapped : (g.mapText f).components[j]? = some (c.mapText f) := by
      rw [ComponentGroup.mapText, List.getElem?_map, hj, Option.map_some]
    rw [reference?, hb.groups i g hg, Option.bind_some, hmapped, Option.bind_some,
      Component.timerEvent?_mapText, htimer, Option.map_some]

theorem grows_withResolved (hres : e.branches.resolved = .ok branches) :
    e.behavior.Grows (Branch.substituteId branches) (e.withResolved branches).behavior where
  events i ev hev := by
    obtain ⟨added, hget, -, -⟩ := (Branch.stitched_sew hres e.behavior.events).event i ev hev
    refine ⟨Event.mapReferences (Branch.substituteId branches)
      { ev with remove := ev.remove ++ added }, ?_, ?_⟩
    · rw [events_withResolved, List.getElem?_map, hget, Option.map_some]
    · rw [Event.add_mapReferences, Event.remove_mapReferences, List.map_append]
      exact ⟨by cases ev; rfl, List.prefix_refl _, List.prefix_append _ _⟩
  groups i g hg := by
    simp only [withResolved, Branch.resolveBehavior, Branch.stitchAll_eq, Branch.sewn,
      List.getElem?_map, hg, Option.map_some]

def supplied (id : StateId) (s : LoopState) (b : Behavior) : Behavior :=
  { b with events := b.events ++ [s.event id], groups := b.groups ++ [s.group id] }

theorem grows_closed (id : StateId) (s : LoopState) (b : Behavior) :
    (supplied id s b).Grows (fun id => id) (s.extend id b) := by
  by_cases hcloses : (s.last && !id.isFirst) = true
  · exact Behavior.grows_of_modifyFirst (Event.ensureRemoves_grows id.label) (if_pos hcloses) rfl
  · exact Behavior.grows_of_eq (if_neg hcloses) rfl

theorem grows_extend (id : StateId) (s : LoopState) (b : Behavior) :
    b.Grows (fun id => id) (s.extend id b) := by
  have hsupplied : b.Grows (fun id => id) (supplied id s b) := Behavior.grows_of_append rfl rfl
  exact hsupplied.trans (grows_closed id s b)

/-- An operation lets the behavior file grow; a resolution also rewrites it. -/
theorem grows_after (e : Entity) (op : Operation) :
    e.behavior.Grows (fun id => id) (after e op).behavior ∨
      ∃ branches, e.branches.resolved = .ok branches ∧
        e.behavior.Grows (Branch.substituteId branches) (after e op).behavior := by
  have resolution : e.behavior.Grows (fun id => id) (after e .resolveBranches).behavior ∨
      ∃ branches, e.branches.resolved = .ok branches ∧
        e.behavior.Grows (Branch.substituteId branches) (after e .resolveBranches).behavior :=
    after_resolveBranches_of (P := fun e' => e.behavior.Grows (fun id => id) e'.behavior ∨
      ∃ branches, e.branches.resolved = .ok branches ∧
        e.behavior.Grows (Branch.substituteId branches) e'.behavior)
      (Or.inl (Behavior.grows_of_eq rfl rfl))
      fun branches hres => Or.inr ⟨branches, hres, grows_withResolved hres⟩
  cases op with
  | setId id =>
    refine Or.inl (Behavior.grows_of_eq (events_setId id e) ?_)
    change (setId id e).behavior.groups = _
    simp only [setId]
    split <;> rfl
  | addGroup group => exact Or.inl (Behavior.grows_of_append (List.append_nil _).symm rfl)
  | addEvent event => exact Or.inl (Behavior.grows_of_append rfl (List.append_nil _).symm)
  | createController kind suffix initial =>
    exact Or.inl (by cases kind <;> exact Behavior.grows_of_eq rfl rfl)
  | addController kind c => exact Or.inl (by cases kind <;> exact Behavior.grows_of_eq rfl rfl)
  | addControllerState kind index state =>
    rw [after_addControllerState]
    exact Or.inl (by cases kind <;> exact Behavior.grows_of_eq rfl rfl)
  | addLoopState s =>
    exact Or.inl (after_addLoopState_of
      (P := fun e' => e.behavior.Grows (fun id => id) e'.behavior)
      (Behavior.grows_of_eq rfl rfl) fun _ => grows_extend e.nextState s e.behavior)
  | resolveBranches => exact resolution
  | build =>
    rw [after_build]
    exact resolution
  | editBehavior edit =>
    cases edit with
    | addGroup group => exact Or.inl (Behavior.grows_of_append (List.append_nil _).symm rfl)
    | addEvent event => exact Or.inl (Behavior.grows_of_append rfl (List.append_nil _).symm)
    | changeEvent id change =>
      exact Or.inl (Behavior.grows_of_modifyFirst (Event.edit_grows change) rfl rfl)
    | _ => exact Or.inl (Behavior.grows_of_eq rfl rfl)
  | _ => exact Or.inl (Behavior.grows_of_eq rfl rfl)

/-- No operation changes the id of a state at its place. -/
theorem label_after (hs : e.branches.Sound) (h : e.reference? p = some k.label) :
    (after e op).reference? p = some k.label := by
  rcases grows_after e op with hgrows | ⟨branches, hres, hgrows⟩
  · have hstays := reference?_grows hgrows h
    exact hstays
  · rw [reference?_grows hgrows h, Branch.substituteId_label hs hres]

theorem label_run (hs : e.branches.Sound) (h : e.reference? p = some k.label)
    (ops : List Operation) : (run e ops).reference? p = some k.label := by
  induction ops generalizing e with
  | nil => exact h
  | cons op ops ih => exact ih (sound_after hs op) (label_after hs h)

theorem getElem?_ensureRemoves (group : String) (ev : Event) :
    (ev.ensureRemoves group).remove[ev.remove.idxOf group]? = some group := by
  rw [Event.ensureRemoves_eq]
  by_cases h : group ∈ ev.remove
  · simp [h]
  · simp [h, List.idxOf_of_notMem]

theorem closing_withLoopState {ev : Event} (hl : s.last = true) (hne : e.nextState.isFirst = false)
    (hev : e.behavior.event? StateId.first.label = some ev) :
    (e.withLoopState s).reference? (.removed (e.eventIds.idxOf StateId.first.label)
      (ev.remove.idxOf e.nextState.label)) = some e.nextState.label := by
  have hat : e.behavior.events[e.eventIds.idxOf StateId.first.label]? = some ev := by
    rw [Behavior.event?, find?_key_eq_getElem?] at hev
    exact hev
  have hm : StateId.first.label ∈ e.eventIds := by
    rw [← List.idxOf_lt_length_iff, eventIds, List.length_map]
    exact (List.getElem?_eq_some_iff.mp hat).1
  have hevents : (e.withLoopState s).behavior.events =
      modifyFirst (·.fullId == StateId.first.label) (·.ensureRemoves e.nextState.label)
        (e.behavior.events ++ [s.event e.nextState]) := if_pos (by rw [hl, hne]; rfl)
  -- The event of the new state comes behind, so the first one with the id is still the same.
  have hfirst : ((e.behavior.events ++ [s.event e.nextState]).map Event.fullId).idxOf
      StateId.first.label = e.eventIds.idxOf StateId.first.label := by
    rw [List.map_append]
    exact List.idxOf_append_of_mem hm
  have hchanged : (e.withLoopState s).behavior.events[e.eventIds.idxOf StateId.first.label]? =
      some (ev.ensureRemoves e.nextState.label) := by
    rw [hevents, modifyFirst_eq_modify, hfirst, List.getElem?_modify_eq,
      List.getElem?_append_left (List.getElem?_eq_some_iff.mp hat).1, hat]
    rfl
  rw [reference?, hchanged]
  exact getElem?_ensureRemoves e.nextState.label ev

theorem generates_withLoopState (h : Generates e s p k) :
    (e.withLoopState s).reference? p = some k.label := by
  -- All but the closing id stand there before the loop is closed.
  have before : { e with behavior := supplied e.nextState s e.behavior }.reference? p =
      some k.label → (e.withLoopState s).reference? p = some k.label :=
    reference?_grows (f := fun id => id) (grows_closed e.nextState s e.behavior)
  cases h with
  | own => exact before (by simp [reference?, supplied, LoopState.event])
  | previous hk => exact before (by simp [reference?, supplied, LoopState.event, hk])
  | closing hl hne hev => exact closing_withLoopState hl hne hev
  | next ht hb hl =>
    obtain ⟨length, ht⟩ := Option.isSome_iff_exists.mp ht
    exact before (by simp [reference?, supplied, LoopState.group, LoopState.expiryEvent, ht, hb, hl,
      Component.timerEvent?_timer])
  | first ht hb hl =>
    obtain ⟨length, ht⟩ := Option.isSome_iff_exists.mp ht
    exact before (by simp [reference?, supplied, LoopState.group, LoopState.expiryEvent, ht, hb, hl,
      Component.timerEvent?_timer])

/-- The first group despawns. The first event adds that group or, after a resolution that knew
a branch of its name, the group of the state that the branch leads to. -/
structure Despawns (e : Entity) : Prop where
  group : e.behavior.groups[0]? = some despawnGroup
  event : e.behavior.events[0]?.map Event.id = some despawnName
  added : e.reference? (.added 0 0) = some despawnName ∨
    ∃ t : StateId, (e.branches.entry despawnName).target = some t ∧
      e.reference? (.added 0 0) = some t.label

theorem despawns_new (scope name : String) {o : Options} (h : o.despawnable = true) :
    Despawns (new scope name o) where
  group := by simp [new, h]
  event := by simp [new, h, despawnEvent]
  added := Or.inl (by simp [reference?, new, h, despawnEvent])

theorem substituteId_cases (hs : e.branches.Sound) (hres : e.branches.resolved = .ok branches)
    (id : String) : Branch.substituteId branches id = id ∨
      ∃ t : StateId, (e.branches.entry id).target = some t ∧
        Branch.substituteId branches id = t.label := by
  have hrenames := Branch.substituteId_renames hs hres id
  by_cases hid : ∃ b ∈ e.branches, b.name = id
  · obtain ⟨b, hb, rfl⟩ := hid
    obtain ⟨t, ht, heq⟩ := hrenames.name b hb rfl
    exact Or.inr ⟨t, by rw [Registry.entry_of_mem hs.distinct hb, ht], heq⟩
  · exact Or.inl (hrenames.other fun b hb hn => hid ⟨b, hb, hn⟩)

theorem Despawns.grows (hd : Despawns e) (hb : e.behavior.Grows f e'.behavior)
    (hx : e.branches.Extends e'.branches) (hlabel : ∀ t : StateId, f t.label = t.label)
    (hname : f despawnName = despawnName ∨ ∃ t : StateId,
      (e.branches.entry despawnName).target = some t ∧ f despawnName = t.label) :
    Despawns e' where
  group := hb.groups 0 _ hd.group
  event := by
    obtain ⟨ev, hev, hid⟩ := Option.map_eq_some_iff.mp hd.event
    obtain ⟨ev', hev', hid', -⟩ := hb.events 0 ev hev
    rw [hev', Option.map_some, hid', hid]
  added := by
    rcases hd.added with hstays | ⟨t, ht, hstays⟩
    · have hlater := reference?_grows hb hstays
      rcases hname with hsame | ⟨t, ht, hchanged⟩
      · exact Or.inl (hlater.trans (congrArg some hsame))
      · exact Or.inr ⟨t, hx.target _ t ht, hlater.trans (congrArg some hchanged)⟩
    · have hlater := reference?_grows hb hstays
      exact Or.inr ⟨t, hx.target _ t ht, hlater.trans (congrArg some (hlabel t))⟩

theorem Despawns.withResolved (hd : Despawns e) (hs : e.branches.Sound)
    (hres : e.branches.resolved = .ok branches) : Despawns (e.withResolved branches) :=
  hd.grows (grows_withResolved hres) (.refl _) (Branch.substituteId_label hs hres)
    (substituteId_cases hs hres despawnName)

theorem Despawns.after (hd : Despawns e) (hs : e.branches.Sound) (op : Operation) :
    Despawns (after e op) := by
  have hx := extends_after e op
  rcases grows_after e op with hgrows | ⟨branches, hres, hgrows⟩
  · exact hd.grows hgrows hx (fun _ => rfl) (Or.inl rfl)
  · exact hd.grows hgrows hx (Branch.substituteId_label hs hres)
      (substituteId_cases hs hres despawnName)

theorem Despawns.run (hd : Despawns e) (hs : e.branches.Sound) (ops : List Operation) :
    Despawns (run e ops) := by
  induction ops generalizing e with
  | nil => exact hd
  | cons op ops ih => exact ih (hd.after hs op) (sound_after hs op)

/-- A resolution that succeeds leaves the name only if no branch has it. -/
theorem Despawns.resolved (hd : Despawns e) (hs : e.branches.Sound)
    (hres : e.branches.resolved = .ok branches) :
    ((∀ b ∈ e.branches, b.name ≠ despawnName) →
      (e.withResolved branches).reference? (.added 0 0) = some despawnName) ∧
    ∀ b ∈ e.branches, b.name = despawnName → ∃ t : StateId, b.target = some t ∧
      (e.withResolved branches).reference? (.added 0 0) = some t.label := by
  have hgrows := grows_withResolved hres
  have hrenames := Branch.substituteId_renames hs hres despawnName
  refine ⟨fun hno => ?_, fun b hb hn => ?_⟩
  · rcases hd.added with hstays | ⟨t, ht, -⟩
    · rw [reference?_grows hgrows hstays, hrenames.other hno]
    · rcases Registry.entry_mem_or_blank despawnName e.branches with hm | hblank
      · exact (hno _ hm (Registry.name_entry _ _)).elim
      · rw [hblank] at ht
        cases ht
  · obtain ⟨t, ht, hchanged⟩ := hrenames.name b hb hn
    refine ⟨t, ht, ?_⟩
    -- An earlier resolution can only have put the same state there: a branch keeps its target.
    rcases hd.added with hstays | ⟨t', ht', hstays⟩
    · rw [reference?_grows hgrows hstays, hchanged]
    · rw [← hn, Registry.entry_of_mem hs.distinct hb, ht] at ht'
      obtain rfl := Option.some.inj ht'
      rw [reference?_grows hgrows hstays, Branch.substituteId_label hs hres]

theorem addLengths_withResolved (hres : e.branches.resolved = .ok branches) :
    (e.withResolved branches).behavior.events.map (·.add.length) =
      e.behavior.events.map (·.add.length) := by
  have hstitched := Branch.stitched_sew hres e.behavior.events
  rw [events_withResolved]
  refine List.ext_getElem? fun i => ?_
  rw [List.getElem?_map, List.getElem?_map, List.getElem?_map]
  cases hev : e.behavior.events[i]? with
  | none => rw [hstitched.event?_none hev]; rfl
  | some ev =>
    obtain ⟨added, hget, -, -⟩ := hstitched.event i ev hev
    rw [hget]
    simp [Event.add_mapReferences]

/-- Wherever a loop state that is accepted in a run puts the id of a state, this id stands after
the run and after a resolution that follows. No add-list grows by a resolution. The event that
despawns goes on adding its group if no branch has the name of that group; else the resolution
puts the state that the branch leads to in its place. -/
theorem generated_ids_survive_resolution (scope name : String) (o : Options)
    (ops : List Operation)
    (hok : resolveBranches.apply (run (new scope name o) ops) = (e', .ok ())) :
    (∀ before s later, ops = before ++ .addLoopState s :: later → ∀ id,
      ((addLoopState s).apply (run (new scope name o) before)).2 = .ok id →
      ∀ p k, Generates (run (new scope name o) before) s p k →
        (run (new scope name o) ops).reference? p = some k.label ∧
        e'.reference? p = some k.label) ∧
    e'.behavior.events.map (·.add.length) =
      (run (new scope name o) ops).behavior.events.map (·.add.length) ∧
    (o.despawnable = true →
      e'.behavior.groups[0]? = some despawnGroup ∧
      e'.behavior.events[0]?.map Event.id = some despawnName ∧
      ((∀ b ∈ e'.branches, b.name ≠ despawnName) →
        e'.reference? (.added 0 0) = some despawnName) ∧
      ∀ b ∈ e'.branches, b.name = despawnName → ∃ t : StateId, b.target = some t ∧
        e'.reference? (.added 0 0) = some t.label) := by
  have hsound : ∀ ops, (run (new scope name o) ops).branches.Sound :=
    fun ops => sound_reachable (reachable_run (.new scope name o) ops)
  obtain ⟨branches, hres, rfl⟩ := resolve_ok hok
  refine ⟨?_, addLengths_withResolved hres, fun hdespawnable => ?_⟩
  · rintro before s later rfl id hid p k hgenerates
    obtain ⟨haccepted, -⟩ := addLoopState_ok hid
    have hsplit : run (new scope name o) (before ++ .addLoopState s :: later) =
        run (run (new scope name o) (before ++ [.addLoopState s])) later := by
      rw [← run_append, List.append_assoc, List.singleton_append]
    have hplaced : (run (new scope name o) (before ++ [.addLoopState s])).reference? p =
        some k.label := by
      rw [run_snoc, after_accepted haccepted]
      exact generates_withLoopState hgenerates
    have hstays : (run (new scope name o) (before ++ .addLoopState s :: later)).reference? p =
        some k.label := by
      rw [hsplit]
      exact label_run (hsound _) hplaced later
    refine ⟨hstays, ?_⟩
    rw [reference?_grows (grows_withResolved hres) hstays,
      Branch.substituteId_label (hsound _) hres]
  · have hdespawns : Despawns (run (new scope name o) ops) :=
      (despawns_new scope name hdespawnable).run Registry.sound_nil ops
    have hlater := hdespawns.withResolved (hsound ops) hres
    exact ⟨hlater.group, hlater.event, hdespawns.resolved (hsound ops) hres⟩

/-- The second state has a name that is close to the group that despawns. The last state closes
the loop. -/
def similarNameRun : List Operation := [
  .addLoopState { timer := some 3.0, connections := ["despawning"] },
  .addLoopState { name := some "despawning", timer := some 3.0, timerBranch := some "despawning" },
  .addLoopState { last := true, timer := some 5.0 }]

theorem similar_name_keeps_ids : ∃ e',
    resolveBranches.apply (run (new "dev" "Boss" { despawnable := true }) similarNameRun) =
      (e', .ok ()) ∧
    -- the group of the last state in its own event and in the event of the first
    e'.reference? (.added 3 0) = some "state_2" ∧ e'.reference? (.removed 1 0) = some "state_2" ∧
    e'.reference? (.removed 3 0) = some "state_1" ∧ e'.reference? (.expiry 3 1) = some "state_0" ∧
    e'.reference? (.added 0 0) = some "despawn" := by
  have hres : (run (new "dev" "Boss" { despawnable := true }) similarNameRun).branches.resolved =
      .ok [⟨"despawning", ⟨1⟩, [⟨0⟩, ⟨1⟩]⟩] := by decide +kernel
  obtain ⟨hids, -, hdespawns⟩ := generated_ids_survive_resolution "dev" "Boss"
    { despawnable := true } similarNameRun (resolve_eq hres)
  obtain ⟨-, -, hstays, -⟩ := hdespawns rfl
  have hthird : ∀ p k, Generates (run (new "dev" "Boss" { despawnable := true })
      (similarNameRun.take 2)) { last := true, timer := some 5.0 } p k → _ :=
    hids (similarNameRun.take 2) _ [] rfl ⟨2⟩ (by decide +kernel)
  refine ⟨_, resolve_eq hres, ?_, ?_, ?_, ?_, ?_⟩
  · exact (hthird _ _ .own).2
  · exact (hthird _ _ (.closing rfl rfl rfl)).2
  · exact (hthird _ _ (.previous rfl)).2
  · exact (hthird _ _ (.first rfl rfl rfl)).2
  · exact hstays (by decide +kernel)

/-- The name of the group that despawns is accepted as the name of a branch. -/
theorem despawn_is_captured :
    ((addLoopState { name := some "despawn" }).apply
      (new "dev" "Boss" { despawnable := true })).2 = .ok .first ∧
    (new "dev" "Boss" { despawnable := true }).reference? (.added 0 0) = some "despawn" ∧
    ∃ e', resolveBranches.apply (run (new "dev" "Boss" { despawnable := true })
        [.addLoopState { name := some "despawn" }]) = (e', .ok ()) ∧
      (e'.behavior.event? "despawn").map Event.add = some ["state_0"] ∧
      (e'.behavior.group? "despawn").map (·.components.map Component.id) =
        some ["minecraft:instant_despawn"] := by
  have hres : (run (new "dev" "Boss" { despawnable := true })
      [.addLoopState { name := some "despawn" }]).branches.resolved =
      .ok [⟨"despawn", ⟨0⟩, []⟩] := by decide +kernel
  exact ⟨by decide +kernel, by decide +kernel, _, resolve_eq hres, by decide +kernel,
    by decide +kernel⟩

end Entity
end EntityPack
