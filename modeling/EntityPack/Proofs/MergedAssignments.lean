import EntityPack.Proofs.AssignedValues
import EntityPack.Proofs.EventLayers
import EntityPack.Proofs.Rendering
import EntityPack.Proofs.ScriptAcceptance

/-!
# Merged assignments

Assignments that are collected and changed hold each id once, where it was assigned first and with
the value that was assigned last. The events of loop states and the assignments at spawning are
merged from those of the states, so a state may assign an id twice without any trace of it.
-/
namespace EntityPack

namespace Assignments

def Edit.assigned : Edit → Assignments
  | .set id value => [(id, value)]
  | .extend later => later

/-- Each id that was assigned stands once, at the place of its first assignment and with the value
of its last one, and the object shows these values in this order. -/
structure Gathered (assigned gathered : Assignments) : Prop where
  distinct : (Entries.keys gathered).Nodup
  order : Entries.keys gathered = (Entries.keys assigned).eraseDups
  value : ∀ id, Entries.get? id gathered = Entries.last? id assigned
  object : gathered.toJson = .obj ((Entries.keys gathered).filterMap fun id =>
    (Entries.get? id gathered).map fun value => (propertyKey id, value.toJson))

variable {assigned gathered : Assignments}

theorem toJson_of_distinct (h : (Entries.keys gathered).Nodup) :
    gathered.toJson = .obj ((Entries.keys gathered).filterMap fun id =>
      (Entries.get? id gathered).map fun value => (propertyKey id, value.toJson)) := by
  have hkeys : Entries.keys (gathered.map fun entry => (propertyKey entry.1, entry.2.toJson)) =
      (Entries.keys gathered).map propertyKey := by
    rw [Entries.keys, Entries.keys, List.map_map, List.map_map]
    rfl
  have hnames : (Entries.keys (gathered.map fun entry =>
      (propertyKey entry.1, entry.2.toJson))).Nodup := by
    rw [hkeys]
    exact h.map fun _ _ => propertyKey_inj.mp
  have hfields : gathered.map (fun entry => (propertyKey entry.1, entry.2.toJson)) =
      (Entries.keys gathered).filterMap fun id =>
        (Entries.get? id gathered).map fun value => (propertyKey id, value.toJson) := by
    conv_lhs => rw [← Entries.filterMap_keys h, List.map_filterMap]
    simp only [Option.map_map, Function.comp_def]
  rw [toJson, Json.ofFields, Entries.ofList_of_distinct hnames, hfields]

theorem gathered_ofList (assigned : Assignments) :
    Gathered assigned (Entries.ofList assigned) where
  distinct := Entries.nodup_keys_ofList assigned
  order := Entries.keys_ofList assigned
  value id := by rw [Entries.get?_ofList, Entries.last?, Entries.get?_eq_find?]
  object := toJson_of_distinct (Entries.nodup_keys_ofList assigned)

theorem Gathered.isEmpty (h : Gathered assigned gathered) :
    gathered.isEmpty = assigned.isEmpty := by
  have hkeys := h.order
  cases assigned with
  | nil => rw [List.map_eq_nil_iff.mp hkeys]
  | cons entry assigned =>
    cases gathered with
    | nil =>
      have hm : entry.1 ∈ (Entries.keys (entry :: assigned)).eraseDups :=
        List.mem_eraseDups.mpr (List.mem_cons_self ..)
      rw [← hkeys] at hm
      cases hm
    | cons first gathered => rfl

theorem edit_eq_merge (assignments : Assignments) (change : Edit) :
    assignments.edit change = Entries.merge assignments change.assigned := by
  cases change <;> rfl

theorem edits_eq_merge (assignments : Assignments) (edits : List Edit) :
    edits.foldl edit assignments =
      Entries.merge assignments (edits.flatMap Edit.assigned) := by
  induction edits generalizing assignments with
  | nil => rfl
  | cons change edits ih =>
    rw [List.foldl_cons, ih, edit_eq_merge, List.flatMap_cons]
    exact (List.foldl_append ..).symm

theorem gathered_edits (pairs : List (String × PropertyValue)) (edits : List Edit) :
    Gathered (pairs ++ edits.flatMap Edit.assigned)
      (edits.foldl edit (Entries.ofList pairs)) := by
  have hmerged : edits.foldl edit (Entries.ofList pairs) =
      Entries.ofList (pairs ++ edits.flatMap Edit.assigned) := by
    rw [edits_eq_merge]
    exact (List.foldl_append ..).symm
  rw [hmerged]
  exact gathered_ofList _

end Assignments

namespace LoopState

def assigned (s : LoopState) : Assignments := s.properties.getD []

def gathered (s : LoopState) : LoopState :=
  { s with properties := s.properties.map Entries.ofList }

theorem properties_event (id : StateId) (s : LoopState) :
    (s.event id).properties = Entries.ofList s.assigned := by
  unfold event assigned
  cases s.properties <;> rfl

theorem event_gathered (id : StateId) (s : LoopState) : s.gathered.event id = s.event id := by
  unfold event gathered
  cases s.properties with
  | none => rfl
  | some properties => simp only [Option.map_some, Entries.ofList_ofList]

theorem extend_gathered (id : StateId) (s : LoopState) (b : Behavior) :
    s.gathered.extend id b = s.extend id b := by
  have hspawn : (s.gathered.extend id b).spawnProperties =
      (s.extend id b).spawnProperties := by
    unfold extend gathered
    cases s.properties with
    | none => rfl
    | some properties => simp only [Option.map_some, Entries.merge_ofList]
  have hevents : (s.gathered.extend id b).events = (s.extend id b).events := by
    unfold extend
    rw [event_gathered]
    rfl
  exact congrArg₂ (fun events spawnProperties =>
    { s.extend id b with events, spawnProperties }) hevents hspawn

end LoopState

theorem Event.get?_set_property {ev : Event} (hr : ev.randomizers = [])
    (hs : ev.sequential = []) (hn : ev.next = none) : ev.toJson.get? "set_property" =
      if ev.properties.isEmpty then none else some ev.properties.toJson := by
  rw [toJson_eq, layers_of_nil hs, own, hr, ownAction_nil, hn]
  exact (Entries.get?_append ..).trans (by rw [get?_primary]; simp [Entries.get?])

namespace Entity

def Operation.gathered : Operation → Operation
  | .addLoopState s => .addLoopState s.gathered
  | op => op

variable {h added : List Placed} {e e' : Entity} {s : LoopState} {k : StateId} {op : Operation}
  {branches : List ResolvedBranch}

/-- A loop state that assigns an id twice makes the same entity as one that assigns it once. -/
theorem addLoopState_gathered (s : LoopState) (e : Entity) :
    (addLoopState s.gathered).apply e = (addLoopState s).apply e := by
  have hcheck : checkLoopState s.gathered e = checkLoopState s e := rfl
  cases hc : checkLoopState s e with
  | error c => rw [addLoopState_refused hc, addLoopState_refused (hcheck.trans hc)]
  | ok u =>
    have hsame : e.withLoopState s.gathered = e.withLoopState s :=
      congrArg (fun behavior => { e.withLoopState s with behavior })
        (s.extend_gathered e.nextState e.behavior)
    rw [addLoopState_accepted (checkLoopState_ok.mp hc),
      addLoopState_accepted (checkLoopState_ok.mp (hcheck.trans hc)), hsame]

theorem after_gathered (e : Entity) (op : Operation) : after e op.gathered = after e op := by
  cases op with
  | addLoopState s =>
    rw [Operation.gathered, after_addLoopState_eq, after_addLoopState_eq, addLoopState_gathered]
  | _ => rfl

theorem run_gathered (e : Entity) (ops : List Operation) :
    run e (ops.map Operation.gathered) = run e ops := by
  induction ops generalizing e with
  | nil => rfl
  | cons op ops ih =>
    have hstep : run e ((op :: ops).map Operation.gathered) =
        run (after e op.gathered) (ops.map Operation.gathered) := rfl
    rw [hstep, after_gathered, ih]
    rfl

/-- The event of each accepted state is as the state has it, removed groups apart. -/
def Untouched (h : List Placed) (e : Entity) : Prop :=
  ∀ (k : StateId) p, h[k.index]? = some p → ∃ ev, e.behavior.event? k.label = some ev ∧
    ev.withoutRemoves = (p.state.event k).withoutRemoves

/-- What the first accepted state assigns is what is assigned at spawning. -/
def Seeded (h : List Placed) (e : Entity) : Prop :=
  e.behavior.spawnProperties = Entries.ofList ((h.head?.map (·.state.assigned)).getD [])

theorem event_mapReferences {f : String → String} (hf : f k.label = k.label) {ev : Event}
    (hev : ev.withoutRemoves = (s.event k).withoutRemoves) :
    (ev.mapReferences f).withoutRemoves = (s.event k).withoutRemoves := by
  have hcomm : (ev.mapReferences f).withoutRemoves = ev.withoutRemoves.mapReferences f := by
    cases ev
    rfl
  rw [hcomm, hev]
  simp [LoopState.event, Event.withoutRemoves, Event.mapReferences, Event.mapAllReferences, hf]

theorem untouched_appended (hu : Untouched h e) (ha : Appends e e') : Untouched h e' := by
  intro k p hp
  obtain ⟨ev, hev, hsame⟩ := hu k p hp
  obtain ⟨events, hevents, -⟩ := ha.events
  refine ⟨ev, ?_, hsame⟩
  rw [Behavior.event?, hevents, List.find?_append, ← Behavior.event?, hev, Option.some_or]

theorem untouched_placed (hw : Wired h e) (hu : Untouched h e) (group : Nat) :
    Untouched (h ++ [⟨s, group⟩]) (e.withLoopState s) := by
  intro k p hp
  rcases getElem?_snoc hp with hp | ⟨hk, rfl⟩
  · obtain ⟨ev, hev, hsame⟩ := hu k p hp
    refine ⟨_, event?_earlier s hev, ?_⟩
    -- Closing the loop changes the groups that are removed and nothing else.
    split
    · exact (Event.withoutRemoves_ensureRemoves ..).trans hsame
    · exact hsame
  · obtain rfl : e.nextState = k := congrArg StateId.mk (hw.recorded.count.trans hk.symm)
    exact ⟨_, event?_nextState hw s, rfl⟩

theorem untouched_resolved (hw : Wired h e) (hu : Untouched h e)
    (hres : e.branches.resolved = .ok branches) : Untouched h (e.withResolved branches) := by
  intro k p hp
  obtain ⟨ev, hev, hsame⟩ := hu k p hp
  obtain ⟨groups, hfind, -⟩ := event?_withResolved hres hev
  exact ⟨_, hfind, event_mapReferences
    (Branch.substituteId_label hw.recorded.sound hres k) hsame⟩

theorem untouched_progress (hw : Wired h e) (hu : Untouched h e) (hp : Progress e e' added) :
    Untouched (h ++ added) e' := by
  cases hp with
  | appended ha =>
    rw [List.append_nil]
    exact untouched_appended hu ha
  | placed _ => exact untouched_placed hw hu _
  | resolved hres =>
    rw [List.append_nil]
    exact untouched_resolved hw hu hres

/-- Of the operations that leave the behavior file to others, only an accepted loop state assigns
anything at spawning. -/
theorem spawnProperties_after (hop : op.SparesStates) (hr : record e op = []) :
    (after e op).behavior.spawnProperties = e.behavior.spawnProperties := by
  have resolution :
      (after e .resolveBranches).behavior.spawnProperties = e.behavior.spawnProperties :=
    after_resolveBranches_of (P := fun e' : Entity =>
      e'.behavior.spawnProperties = e.behavior.spawnProperties) rfl fun branches hres => by
        obtain ⟨events, -, heq⟩ := stitched_behavior hres
        simp only [withResolved, heq, Branch.resolveBehavior]
  cases op with
  | setId id =>
    have hafter : after e (.setId id) = setId id e := rfl
    rw [hafter]
    simp only [setId]
    split <;> rfl
  | createController kind suffix initial => cases kind <;> rfl
  | addController kind controller => cases kind <;> rfl
  | addControllerState kind index state =>
    rw [after_addControllerState]
    cases kind <;> rfl
  | addLoopState s =>
    rcases after_addLoopState s e with ⟨-, -, hrec⟩ | ⟨heq, -⟩
    · rw [hrec] at hr
      cases hr
    · rw [heq]
  | resolveBranches => exact resolution
  | build =>
    rw [after_build]
    exact resolution
  | editBehavior edit => exact hop.elim
  | _ => rfl

theorem seeded_placed (hr : Recorded h e) (hs : Seeded h e) (group : Nat) :
    Seeded (h ++ [⟨s, group⟩]) (e.withLoopState s) := by
  have hspawn : (e.withLoopState s).behavior.spawnProperties =
      if e.nextState.isFirst then e.behavior.spawnProperties.merge s.assigned
      else e.behavior.spawnProperties := by
    simp only [withLoopState, LoopState.extend, LoopState.assigned]
    cases s.properties with
    | none => exact (ite_self _).symm
    | some properties => rfl
  unfold Seeded at hs ⊢
  rw [hspawn, hs]
  cases h with
  | nil =>
    have hfirst : e.nextState.isFirst = true := by
      rw [StateId.isFirst_iff]
      exact congrArg StateId.mk hr.count
    rw [if_pos hfirst]
    rfl
  | cons p h =>
    have hlater : ¬ e.nextState.isFirst = true := by
      rw [StateId.isFirst_iff]
      intro hfirst
      have hcount : e.stateCount = 0 := congrArg StateId.index hfirst
      rw [hr.count] at hcount
      cases hcount
    rw [if_neg hlater]
    rfl

theorem seeded_after (hr : Recorded h e) (hs : Seeded h e) (hop : op.SparesStates) :
    Seeded (h ++ record e op) (after e op) := by
  rcases after_record e op with ⟨-, -, hrec⟩ | ⟨s, rfl, -, heq, hrec⟩
  · rw [hrec, List.append_nil, Seeded, spawnProperties_after hop hrec]
    exact hs
  · rw [hrec, heq]
    exact seeded_placed hr hs _

structure Assigns (h : List Placed) (e : Entity) : Prop where
  wired : Wired h e
  untouched : Untouched h e
  seeded : Seeded h e

theorem Assigns.run (ha : Assigns h e) {ops : List Operation}
    (hops : ∀ op ∈ ops, op.SparesStates) : Assigns (h ++ history e ops) (run e ops) :=
  history_induction (fun hop hP =>
    have hprogress := after_progress _ hop
    ⟨wired_progress hP.wired hprogress, untouched_progress hP.wired hP.untouched hprogress,
      seeded_after hP.wired.recorded hP.seeded hop⟩) ha hops

theorem Assigns.appended (ha : Assigns h e) (happends : Appends e e')
    (hspawn : e'.behavior.spawnProperties = e.behavior.spawnProperties) : Assigns h e' :=
  ⟨wired_appended ha.wired happends, untouched_appended ha.untouched happends,
    hspawn.trans ha.seeded⟩

structure ShowsAssigned (version : String) (k : StateId) (s : LoopState) (b : Behavior)
    (ev : Event) : Prop where
  event : b.event? k.label = some ev
  gathered : Assignments.Gathered s.assigned ev.properties
  shown : (b.document version).eventObject? k.label = some ev.toJson
  body : ev.toJson.get? "set_property" =
    if s.assigned.isEmpty then none else some ev.properties.toJson

theorem Assigns.shows (ha : Assigns h e) (version : String) {p : Placed}
    (hp : h[k.index]? = some p) : ∃ ev, ShowsAssigned version k p.state e.behavior ev := by
  obtain ⟨ev, hev, hsame⟩ := ha.untouched k p hp
  have hproperties : ev.properties = Entries.ofList p.state.assigned :=
    (congrArg Event.properties hsame).trans (p.state.properties_event k)
  have hgathered : Assignments.Gathered p.state.assigned ev.properties :=
    hproperties ▸ Assignments.gathered_ofList _
  have hone : (e.behavior.events.map Event.fullId).count k.label = 1 := by
    rw [ha.wired.ids, if_pos (List.getElem?_eq_some_iff.mp hp).1]
  refine ⟨ev, hev, hgathered, ?_, ?_⟩
  · rw [Behavior.eventObject?_document version e.behavior (spawn_ne_label k),
      lastEvent?_of_once hone hev, Option.map_some]
  · have hrandomizers : ev.randomizers = [] := congrArg Event.randomizers hsame
    have hsequential : ev.sequential = [] := congrArg Event.sequential hsame
    have hnext : ev.next = none := congrArg Event.next hsame
    rw [Event.get?_set_property hrandomizers hsequential hnext, hgathered.isEmpty]

end Entity

namespace EntityScript

open Entity

def gathered (s : EntityScript) : EntityScript :=
  { s with states := s.states.map LoopState.gathered }

variable {e e' : Entity} {index : Nat}

theorem addStates_gathered (index : Nat) (states : List LoopState) (e : Entity) :
    addStates index (states.map LoopState.gathered) e = addStates index states e := by
  induction states generalizing index e with
  | nil => rfl
  | cons state states ih =>
    rw [List.map_cons, addStates, addStates, addLoopState_gathered]
    simp only [ih]

theorem addStates_run {states : List LoopState} (h : addStates index states e = .ok e') :
    e' = run e (states.map .addLoopState) ∧
      (history e (states.map .addLoopState)).map Placed.state = states := by
  induction states generalizing index e with
  | nil =>
    cases h
    exact ⟨rfl, rfl⟩
  | cons state states ih =>
    cases hc : checkLoopState state e with
    | error c =>
      rw [addStates_refused hc] at h
      cases h
    | ok u =>
      have haccepted := checkLoopState_ok.mp hc
      rw [addStates_accepted haccepted] at h
      obtain ⟨hrun, hhistory⟩ := ih h
      have hafter := after_accepted haccepted
      refine ⟨?_, ?_⟩
      · rw [hrun, ← hafter]
        rfl
      · rw [List.map_cons, history, hafter, List.map_append, hhistory, record,
          addLoopState_accepted haccepted]
        rfl

theorem assigns_createControllers (kind : ControllerKind) (specs : List ControllerSpec)
    (ha : Assigns [] e) : Assigns [] (createControllers kind specs e) := by
  induction specs generalizing e with
  | nil => exact ha
  | cons spec specs ih =>
    refine ih (ha.appended (appends_addController kind _ e) ?_)
    cases kind <;> rfl

theorem foldl_addProperty (properties : List Property) (b : Behavior) :
    properties.foldl (fun b p => b.addProperty p) b =
      { b with properties := b.properties ++ properties } := by
  induction properties generalizing b with
  | nil => rw [List.foldl_nil, List.append_nil]
  | cons p properties ih =>
    rw [List.foldl_cons, ih, Behavior.addProperty, List.append_assoc, List.singleton_append]

theorem assigns_foundation (s : EntityScript) : Assigns [] s.foundation := by
  have hnew : Assigns [] (new s.scope s.name s.options) :=
    ⟨wired_new .., fun _ _ hp => (by cases hp), rfl⟩
  have hcontrollers := assigns_createControllers .render s.renderControllers
    (assigns_createControllers .behavior s.behaviorControllers hnew)
  have hfoundation : s.foundation = (createControllers .render s.renderControllers
      (createControllers .behavior s.behaviorControllers
        (new s.scope s.name s.options))).onBehavior
          fun b => { b with properties := b.properties ++ s.properties } := by
    simp only [foundation, foldl_addProperty]
  rw [hfoundation]
  exact hcontrollers.appended (appends_of_unchanged rfl rfl rfl rfl) rfl

/-- Along a run from an accepted script, the loop states are those of the script and then those
that the run adds. -/
theorem assigns_script {s : EntityScript} (hs : s.toEntity = .ok e) {ops : List Operation}
    (hops : ∀ op ∈ ops, op.SparesStates) : ∃ h : List Placed,
      h.map Placed.state = s.states ++ (history e ops).map Placed.state ∧
      Assigns h (run e ops) := by
  obtain ⟨rfl, hhistory⟩ := addStates_run hs
  have hstates : ∀ op ∈ s.states.map Operation.addLoopState, op.SparesStates := by
    simp [Operation.SparesStates]
  have hloaded := s.assigns_foundation.run hstates
  refine ⟨_, ?_, hloaded.run hops⟩
  rw [List.map_append, List.nil_append, hhistory]

/-- Assignments that are collected and changed have each id once, in the order of the first
assignments, with the value of the last one, and so does their object. In an entity of a script,
and after every later run, so have the event of each loop state and the assignments at spawning,
which are those of the first one. Assigning every id once instead, in the operations of a run on
any entity or in a script, makes the same entity. -/
theorem merged_assignments_keep_last_values :
    (∀ pairs (edits : List Assignments.Edit),
      Assignments.Gathered (pairs ++ edits.flatMap Assignments.Edit.assigned)
        (edits.foldl Assignments.edit (Entries.ofList pairs))) ∧
    (∀ (s : EntityScript) e, s.toEntity = .ok e → ∀ ops, (∀ op ∈ ops, op.SparesStates) →
      (∀ version (k : StateId) state,
        (s.states ++ (history e ops).map Placed.state)[k.index]? = some state →
          ∃ ev, ShowsAssigned version k state (run e ops).behavior ev) ∧
      Assignments.Gathered
        (((s.states ++ (history e ops).map Placed.state).head?.map LoopState.assigned).getD [])
        (run e ops).behavior.spawnProperties) ∧
    (∀ s e, (addLoopState s.gathered).apply e = (addLoopState s).apply e) ∧
    (∀ e ops, run e (ops.map Operation.gathered) = run e ops) ∧
    ∀ s : EntityScript, s.gathered.toEntity = s.toEntity := by
  refine ⟨Assignments.gathered_edits, fun s e hs ops hops => ?_, addLoopState_gathered,
    run_gathered, fun s => addStates_gathered 0 s.states s.foundation⟩
  obtain ⟨h, hstates, hassigns⟩ := assigns_script hs hops
  rw [← hstates]
  refine ⟨fun version k state hstate => ?_, ?_⟩
  · rw [List.getElem?_map] at hstate
    obtain ⟨p, hp, rfl⟩ := Option.map_eq_some_iff.mp hstate
    exact hassigns.shows version hp
  · have hseeded := hassigns.seeded
    unfold Seeded at hseeded
    rw [hseeded, List.head?_map, Option.map_map]
    exact Assignments.gathered_ofList _

/-- Both states assign an id twice, and a third one is added later. -/
def repeatedAssignments : EntityScript :=
  { scope := "dev", name := "Boss"
    states := [
      { connections := ["rage"]
        properties := some [("phase", .int 1), ("mood", .text "calm"), ("phase", .int 2)] },
      { name := some "rage", last := true
        properties := some [("mood", .text "mad"), ("mood", .molang "q.mood")] }] }

def laterStateRun : List Operation := [
  .resolveBranches,
  .addLoopState { properties := some [("phase", .int 0)] },
  .build]

theorem repeated_assignments_show_last_values :
    (∀ op ∈ laterStateRun, op.SparesStates) ∧ ∃ e ev ev',
    repeatedAssignments.toEntity = .ok e ∧
    (run e laterStateRun).behavior.event? "state_0" = some ev ∧
    ev.toJson.get? "set_property" =
      some (.obj [("property:phase", .int 2), ("property:mood", .str "'calm'")]) ∧
    (run e laterStateRun).behavior.event? "state_1" = some ev' ∧
    ev'.toJson.get? "set_property" = some (.obj [("property:mood", .str "q.mood")]) ∧
    Entries.keys (run e laterStateRun).behavior.spawnProperties = ["phase", "mood"] ∧
    Entries.get? "phase" (run e laterStateRun).behavior.spawnProperties = some (.int 2) := by
  have hspares : ∀ op ∈ laterStateRun, op.SparesStates := by
    simp [laterStateRun, Operation.SparesStates]
  obtain ⟨e, he⟩ : ∃ e, repeatedAssignments.toEntity = .ok e := ⟨_, rfl⟩
  obtain ⟨-, hscripts, -⟩ := merged_assignments_keep_last_values
  obtain ⟨hevents, hspawn⟩ := hscripts repeatedAssignments e he laterStateRun hspares
  obtain ⟨ev, hshows⟩ := hevents "1.16.0" .first _ rfl
  obtain ⟨ev', hshows'⟩ := hevents "1.16.0" ⟨1⟩ _ rfl
  refine ⟨hspares, e, ev, ev', he, hshows.event, ?_, hshows'.event, ?_, ?_, ?_⟩
  · rw [hshows.body, hshows.gathered.object, hshows.gathered.order]
    simp only [hshows.gathered.value]
    rfl
  · rw [hshows'.body, hshows'.gathered.object, hshows'.gathered.order]
    simp only [hshows'.gathered.value]
    rfl
  · rw [hspawn.order]
    rfl
  · rw [hspawn.value]
    rfl

end EntityScript
end EntityPack
