import EntityPack.Proofs.Entries
import EntityPack.Proofs.Spokes

/-!
# States of controllers in documents

The ids of the states of a controller are distinct, however states come to it: one by one, in a
batch that stops at a state it refuses, on demand, or as spokes of loop states. So the object of
states, in which a later entry would replace an earlier one of the same id, shows every state.
-/
namespace EntityPack

namespace Controller

/-- Controllers that come from edits of one without states. Some of the edits may have failed. -/
def Made (c : Controller) : Prop :=
  ∃ (id initial : String) (edits : List Edit),
    c = edits.foldl (fun c change => (c.edit change).1) { id, initial }

structure Shown (c : Controller) : Prop where
  distinct : (c.states.map State.id).Nodup
  states : c.toJson.fieldsAt ["states"] = c.states.map fun s => (s.id, s.toJson)
  transitions : ∀ s ∈ c.states, s.toJson.itemsAt ["transitions"] =
    s.transitions.map fun t => Json.obj [(t.1, .str t.2)]

/-- A batch adds all its states, or those before the first one whose id is taken. -/
inductive Added (c : Controller) (states : List State) :
    Controller × Except BuildError Unit → Prop where
  | all : Added c states ({ c with states := c.states ++ states }, .ok ())
  | part {before s after} : states = before ++ s :: after →
      s.id ∈ (c.states ++ before).map State.id →
      Added c states
        ({ c with states := c.states ++ before }, .error (.duplicateState c.id s.id))

variable {c c' : Controller} {s : State} {states : List State}
  {r : Controller × Except BuildError Unit}

theorem addStates_taken (h : c.hasState s.id = true) (states : List State) :
    c.addStates (s :: states) = (c, .error (.duplicateState c.id s.id)) := by
  rw [addStates, addState, if_pos h]

theorem addStates_free (h : c.hasState s.id = false) (states : List State) :
    c.addStates (s :: states) = { c with states := c.states ++ [s] }.addStates states := by
  rw [addStates, addState, h]
  rfl

theorem Added.cons (h : Added { c with states := c.states ++ [s] } states r) :
    Added c (s :: states) r := by
  cases h with
  | all =>
    rw [List.append_assoc]
    exact .all
  | part hstates htaken =>
    rw [List.append_assoc] at htaken ⊢
    exact .part (congrArg (s :: ·) hstates) htaken

theorem added_addStates (states : List State) (c : Controller) :
    Added c states (c.addStates states) := by
  induction states generalizing c with
  | nil =>
    have hall : Added c [] ({ c with states := c.states ++ [] }, .ok ()) := .all
    rwa [List.append_nil] at hall
  | cons s states ih =>
    cases htaken : c.hasState s.id with
    | true =>
      have hfirst : s.id ∈ (c.states ++ []).map State.id := by
        rw [List.append_nil]
        exact hasState_iff.mp htaken
      have hpart : Added c (s :: states)
        ({ c with states := c.states ++ [] }, .error (.duplicateState c.id s.id)) :=
        .part rfl hfirst
      rw [List.append_nil] at hpart
      rwa [addStates_taken htaken]
    | false =>
      rw [addStates_free htaken]
      exact (ih _).cons

theorem ids_addStates_nodup (hd : (c.states.map State.id).Nodup) (states : List State) :
    ((c.addStates states).1.states.map State.id).Nodup := by
  induction states generalizing c with
  | nil => exact hd
  | cons s states ih =>
    cases htaken : c.hasState s.id with
    | true => rwa [addStates_taken htaken]
    | false =>
      rw [addStates_free htaken]
      exact ih (ids_snoc_nodup hd htaken)

theorem State.id_edit (s : State) (change : State.Edit) : (s.edit change).id = s.id := by
  cases change <;> rfl

theorem ids_edit_nodup (hd : (c.states.map State.id).Nodup) (change : Edit) :
    ((c.edit change).1.states.map State.id).Nodup := by
  cases change with
  | setInitial state => exact hd
  | addStates states => exact ids_addStates_nodup hd states
  | ensureState id => exact ids_ensureState_nodup hd id
  | changeState id change =>
    have hids : ((c.modifyState id (·.edit change)).states.map State.id) =
        c.states.map State.id := ids_modifyState (State.id_edit · change) id c
    exact hids ▸ hd

theorem Made.distinct (h : Made c) : (c.states.map State.id).Nodup := by
  obtain ⟨id, initial, edits, rfl⟩ := h
  have hstart : (({ id, initial } : Controller).states.map State.id).Nodup := List.nodup_nil
  generalize ({ id, initial } : Controller) = start at hstart
  induction edits generalizing start with
  | nil => exact hstart
  | cons change edits ih => exact ih _ (ids_edit_nodup hstart change)

theorem ids_resolveController (branches : List ResolvedBranch) (c : Controller) :
    (Branch.resolveController branches c).states.map State.id = c.states.map State.id :=
  List.map_map

theorem itemsAt_transitions (s : State) : s.toJson.itemsAt ["transitions"] =
    s.transitions.map fun t => Json.obj [(t.1, .str t.2)] := by
  obtain ⟨id, transitions, onEntry, onExit, animations, blend⟩ := s
  cases transitions with
  | nil =>
    cases onEntry <;> cases onExit <;> cases animations <;> cases blend <;> rfl
  | cons t transitions => rfl

theorem shown_of_distinct (hd : (c.states.map State.id).Nodup) : Shown c where
  distinct := hd
  states := by
    have hids : (Entries.keys (c.states.map fun s => (s.id, s.toJson))) = c.states.map State.id :=
      List.map_map
    exact Entries.ofList_of_distinct (hids ▸ hd)
  transitions s _ := itemsAt_transitions s

end Controller

namespace Entity

def Operation.HandsOverMade : Operation → Prop
  | .addController _ c => c.Made
  | _ => True

def StatesDistinct (e : Entity) : Prop :=
  ∀ kind, ∀ c ∈ e.controllers kind, (c.states.map Controller.State.id).Nodup

variable {e e' : Entity} {op : Operation} {kind : ControllerKind} {i : Nat}
  {added : List Placed} {given : List Controller.State} {c : Controller}

theorem Change.distinct (h : Change e kind i op added given (some c)) (hop : op.HandsOverMade)
    (hd : e.StatesDistinct) : (c.states.map Controller.State.id).Nodup := by
  have old : ∀ {d : Controller}, (e.controllers kind)[i]? = some d →
      (d.states.map Controller.State.id).Nodup :=
    fun hsome => hd kind _ (List.mem_of_getElem? hsome)
  cases h with
  | kept hsome _ _ hstates =>
    rw [hstates]
    exact old hsome
  | created _ hor =>
    rcases hor with hnil | rfl
    · rw [hnil]
      exact List.nodup_nil
    · exact hop.distinct
  | extended hsome hfree => exact Controller.ids_snoc_nodup (old hsome) hfree
  | wired hsome hfree _ =>
    exact Controller.ids_wired_nodup (old hsome) (LoopState.id_spoke kind _ _) hfree
  | resolved hsome _ _ =>
    rw [Controller.ids_resolveController]
    exact old hsome

theorem StatesDistinct.after (hd : e.StatesDistinct) (hop : op.HandsOverMade) :
    (after e op).StatesDistinct := by
  intro kind c hc
  obtain ⟨i, hi⟩ := List.mem_iff_getElem?.mp hc
  have hchange := change_after e op kind i
  rw [hi] at hchange
  exact hchange.distinct hop hd

theorem StatesDistinct.run {ops : List Operation} (hd : e.StatesDistinct)
    (hops : ∀ op ∈ ops, op.HandsOverMade) : (run e ops).StatesDistinct := by
  induction ops generalizing e with
  | nil => exact hd
  | cons op ops ih =>
    exact ih (hd.after (hops op (List.mem_cons_self ..))) fun op hm =>
      hops op (List.mem_cons_of_mem _ hm)

theorem statesDistinct_new (scope name : String) (o : Options) :
    (new scope name o).StatesDistinct := by
  intro kind c hc
  cases kind <;> cases hc

/-- Every state of a controller has one entry, and the entries have all transitions, in order. It
holds of controllers that come from edits, some of which may have failed, and of those of an entity
after any run that hands over such controllers. A state that is refused leaves its controller as it
is, and a batch stops at the first state that is refused, behind all the states before it. -/
theorem every_state_has_one_entry (scope name : String) (o : Options) {ops : List Operation}
    (hops : ∀ op ∈ ops, op.HandsOverMade) :
    (∀ c : Controller, c.Made → c.Shown) ∧
    (∀ kind, ∀ c ∈ (run (new scope name o) ops).controllers kind, c.Shown) ∧
    (∀ (c : Controller) states, c.Added states (c.addStates states)) ∧
    (∀ (c c' : Controller) s cause, c.addStates [s] = (c', .error cause) → c' = c) ∧
    ∀ kind i s e' cause, (addControllerState kind i s).apply (run (new scope name o) ops) =
      (e', .error cause) → e' = run (new scope name o) ops := by
  have hrun := (statesDistinct_new scope name o).run hops
  refine ⟨fun c hc => Controller.shown_of_distinct hc.distinct,
    fun kind c hc => Controller.shown_of_distinct (hrun kind c hc),
    fun c states => Controller.added_addStates states c, fun c c' s cause h => ?_,
    fun kind i s e' cause h => addControllerState_refused h⟩
  rw [Controller.addStates_single] at h
  split at h
  · exact (congrArg Prod.fst h).symm
  · cases congrArg Prod.snd h

def refusedBatch : List Controller.Edit := [
  .addStates [
    { id := "idle", transitions := [("walk", "query.is_moving"), ("walk", "query.is_angry")] },
    { id := "walk" }, { id := "idle" }, { id := "lost" }],
  .ensureState "sleep",
  .setInitial "idle"]

def batchedController : Controller :=
  refusedBatch.foldl (fun c change => (c.edit change).1)
    { id := "controller.animation.cast", initial := "init" }

/-- The second state is refused, and so is the loop state without a controller. -/
def refusedStatesRun : List Operation := [
  .addController .behavior batchedController,
  .addControllerState .behavior 0 { id := "walk" },
  .addLoopState { entryCommands := some ["/say walk"], connections := ["walk"] },
  .addLoopState { exitCommands := some ["/say lost"], behaviorController := 1 },
  .addLoopState { name := some "walk" },
  .resolveBranches]

theorem refused_states_run_shows_the_rest : (∀ op ∈ refusedStatesRun, op.HandsOverMade) ∧
    ∃ c idle, (run (new "dev" "Boss" {}) refusedStatesRun).controllers .behavior = [c] ∧
      c.states.map Controller.State.id = ["idle", "walk", "sleep", "init", "state_0"] ∧
      c.states.head? = some idle ∧
      c.toJson.fieldsAt ["states"] = c.states.map (fun s => (s.id, s.toJson)) ∧
      idle.toJson.itemsAt ["transitions"] = [.obj [("state_1", .str "query.is_moving")],
        .obj [("state_1", .str "query.is_angry")]] := by
  have hops : ∀ op ∈ refusedStatesRun, op.HandsOverMade := by
    have hmade : batchedController.Made := ⟨_, _, refusedBatch, rfl⟩
    simp [refusedStatesRun, Operation.HandsOverMade, hmade]
  have hids : ((run (new "dev" "Boss" {}) refusedStatesRun).controllers .behavior).map
      (fun c => c.states.map Controller.State.id) =
        [["idle", "walk", "sleep", "init", "state_0"]] := by decide +kernel
  obtain ⟨c, hc, hstates⟩ := List.map_eq_singleton_iff.mp hids
  have htransitions : ((run (new "dev" "Boss" {}) refusedStatesRun).controllers .behavior).map
      (fun c => c.states.head?.map Controller.State.transitions) =
        [some [("state_1", "query.is_moving"), ("state_1", "query.is_angry")]] := by decide +kernel
  rw [hc, List.map_singleton, List.singleton_inj, Option.map_eq_some_iff] at htransitions
  obtain ⟨idle, hidle, hleads⟩ := htransitions
  obtain ⟨-, hshown, -⟩ := every_state_has_one_entry "dev" "Boss" {} hops
  have hentries := hshown .behavior c (by rw [hc]; exact List.mem_singleton.mpr rfl)
  refine ⟨hops, c, idle, hc, hstates, hidle, hentries.states, ?_⟩
  rw [hentries.transitions idle (List.mem_of_head? hidle), hleads]
  rfl

end Entity
end EntityPack
