import EntityPack.Entity.Operation
import EntityPack.Proofs.Registry

/-!
# What an assembly leaves behind

Operations run step by step. A loop state that passes its check is added as one update
that no later step can refuse, and resolution changes nothing unless every branch has a
target. So an operation that fails leaves the entity as it was.
-/
namespace EntityPack

namespace Assembly

variable {α β : Type} {a : Assembly α} {f : α → Assembly β} {e e' : Entity} {x : α}
  {c : BuildError}

theorem apply_bind {o : Except BuildError α} (h : a.apply e = (e', o)) :
    (a >>= f).apply e = apply (ExceptT.mk (ExceptT.bindCont f o)) e' := by
  have hr : a e = (o, e') := Prod.ext (congrArg Prod.snd h) (congrArg Prod.fst h)
  change (fun r : Except BuildError β × Entity => (r.2, r.1)) ((a >>= f) e) = _
  simp only [bind, ExceptT.bind, ExceptT.mk, StateT.bind, hr]
  rfl

theorem apply_bind_ok (h : a.apply e = (e', .ok x)) : (a >>= f).apply e = (f x).apply e' :=
  apply_bind h

theorem apply_bind_error (h : a.apply e = (e', .error c)) :
    (a >>= f).apply e = (e', .error c) :=
  apply_bind h

theorem apply_update (u : Entity → Entity) (e : Entity) :
    (update u).apply e = (u e, .ok ()) := rfl

theorem apply_check (p : Entity → Except BuildError α) (e : Entity) :
    (check p).apply e = (e, p e) := rfl

theorem apply_mk (g : Entity → Except BuildError α × Entity) (e : Entity) :
    apply (ExceptT.mk g) e = ((g e).2, (g e).1) := rfl

theorem apply_get (e : Entity) : (get : Assembly Entity).apply e = (e, .ok e) := rfl

variable {kind : ControllerKind} {index : Nat}
  {g : Controller → Controller × Except BuildError Unit} {d d' : Controller}

theorem apply_onController {o : Except BuildError Unit}
    (hd : (e.controllers kind)[index]? = some d) (hg : g d = (d', o)) :
    (onController kind index g).apply e =
      (e.setControllers kind ((e.controllers kind).set index d'), o) := by
  simp only [onController, apply_mk, hd, hg]

theorem apply_onController_none (hd : (e.controllers kind)[index]? = none) :
    (onController kind index g).apply e =
      (e, .error (.controllerIndex kind index (e.controllers kind).length)) := by
  simp only [onController, apply_mk, hd]

end Assembly

namespace Controller

def linked (id : StateId) (c : Controller) : Controller :=
  ({ c with initial := hubState }.ensureState hubState).modifyState hubState
    (·.addTransitions [(id.label, id.activeCondition)])

def wired (spoke : State) (id : StateId) (c : Controller) : Controller :=
  { c.linked id with states := (c.linked id).states ++ [spoke] }

variable {c : Controller} {id : String}

theorem hasState_iff : c.hasState id = true ↔ id ∈ c.states.map State.id := by
  rw [hasState, state?, List.find?_isSome]
  simp

theorem ids_modifyState {f : State → State} (hf : ∀ s, (f s).id = s.id) (id : String)
    (c : Controller) : (c.modifyState id f).states.map State.id = c.states.map State.id :=
  map_modifyFirst _ hf c.states

theorem mem_ids_ensureState {hub : String} :
    id ∈ (c.ensureState hub).states.map State.id ↔ id ∈ c.states.map State.id ∨ id = hub := by
  unfold ensureState
  split
  · rename_i h
    have hm := hasState_iff.mp h
    constructor
    · exact Or.inl
    · rintro (h | rfl)
      · exact h
      · exact hm
  · simp

theorem mem_ids_linked {k : StateId} :
    id ∈ (c.linked k).states.map State.id ↔ id ∈ c.states.map State.id ∨ id = hubState := by
  unfold linked
  rw [ids_modifyState, mem_ids_ensureState]
  exact fun _ => rfl

theorem hasState_linked (id : StateId) (c : Controller) :
    (c.linked id).hasState id.label = c.hasState id.label := by
  apply Bool.eq_iff_iff.mpr
  rw [hasState_iff, hasState_iff, mem_ids_linked]
  simp [StateId.label_ne_hub]

theorem mem_ids_wired {spoke : State} {k : StateId} :
    id ∈ (c.wired spoke k).states.map State.id ↔
      (id ∈ c.states.map State.id ∨ id = hubState) ∨ id = spoke.id := by
  rw [wired, List.map_append, List.mem_append, mem_ids_linked, List.map_singleton,
    List.mem_singleton]

theorem wireSpoke_ok {spoke : State} {id : StateId} (hs : spoke.id = id.label)
    (hc : c.hasState id.label = false) : c.wireSpoke spoke id = (c.wired spoke id, .ok ()) := by
  have hf : (c.linked id).hasState spoke.id = false := by
    rw [hs, hasState_linked, hc]
  have ha : (c.linked id).addState spoke = .ok (c.wired spoke id) := by
    simp [addState, hf, wired]
  unfold linked at ha
  simp only [wireSpoke, ha]

theorem addStates_single (s : State) (c : Controller) :
    c.addStates [s] = (if c.hasState s.id then (c, .error (.duplicateState c.id s.id))
      else ({ c with states := c.states ++ [s] }, .ok ())) := by
  rw [addStates, addState]
  by_cases h : c.hasState s.id <;> simp [h, addStates]

end Controller

namespace LoopState

def extend (id : StateId) (s : LoopState) (b : Behavior) : Behavior :=
  { b with
    groups := b.groups ++ [s.group id]
    events :=
      if s.last && !id.isFirst then
        modifyFirst (·.fullId == StateId.first.label) (·.ensureRemoves id.label)
          (b.events ++ [s.event id])
      else b.events ++ [s.event id]
    spawnProperties :=
      match s.properties with
      | some properties =>
        if id.isFirst then b.spawnProperties.merge properties else b.spawnProperties
      | none => b.spawnProperties }

def declare (id : StateId) (s : LoopState) (r : Registry) : Registry :=
  (r.bind s.name id).addSources s.leadsTo id

def uses (kind : ControllerKind) (s : LoopState) : Bool :=
  match kind with
  | .behavior => s.usesCommands
  | .render => s.animation.isSome

def slot (kind : ControllerKind) (s : LoopState) : Nat :=
  match kind with
  | .behavior => s.behaviorController
  | .render => s.renderController

def wires (kind : ControllerKind) (i : Nat) (s : LoopState) : Bool :=
  s.uses kind && s.slot kind == i

def spoke (kind : ControllerKind) (id : StateId) (s : LoopState) : Controller.State :=
  match kind with
  | .behavior => s.commandSpoke id
  | .render => s.animationSpoke id (s.animation.getD "")

@[simp] theorem id_spoke (kind : ControllerKind) (id : StateId) (s : LoopState) :
    (s.spoke kind id).id = id.label := by
  cases kind <;> rfl

end LoopState

inductive LoopState.Spoke (id : StateId) (s : LoopState) : Controller.State → Prop where
  | commands : Spoke id s (s.commandSpoke id)
  | animation (name : String) : Spoke id s (s.animationSpoke id name)

theorem LoopState.Spoke.id_eq {id : StateId} {s : LoopState} {spoke : Controller.State}
    (h : s.Spoke id spoke) : spoke.id = id.label := by
  cases h <;> rfl

theorem LoopState.spoke_of_kind (s : LoopState) (kind : ControllerKind) (id : StateId) :
    s.Spoke id (s.spoke kind id) := by
  cases kind with
  | behavior => exact .commands
  | render => exact .animation _

namespace Entity

def withCommands (id : StateId) (s : LoopState) (controllers : List Controller) :
    List Controller :=
  if s.usesCommands then
    controllers.modify s.behaviorController (·.wired (s.commandSpoke id) id)
  else controllers

def withAnimation (id : StateId) (s : LoopState) (controllers : List Controller) :
    List Controller :=
  match s.animation with
  | some animation =>
    controllers.modify s.renderController (·.wired (s.animationSpoke id animation) id)
  | none => controllers

def withLoopState (s : LoopState) (e : Entity) : Entity :=
  { e with
    behavior := s.extend e.nextState e.behavior
    behaviorControllers := withCommands e.nextState s e.behaviorControllers
    renderControllers := withAnimation e.nextState s e.renderControllers
    stateCount := e.stateCount + 1
    branches := s.declare e.nextState e.branches }

/-- Only the controller that the state names gets its spoke. -/
theorem controllers_withLoopState (s : LoopState) (e : Entity) (kind : ControllerKind) (i : Nat) :
    ((e.withLoopState s).controllers kind)[i]? =
      if s.wires kind i then
        (e.controllers kind)[i]?.map (·.wired (s.spoke kind e.nextState) e.nextState)
      else (e.controllers kind)[i]? := by
  have hmodify : (e.withLoopState s).controllers kind = if s.uses kind then
      (e.controllers kind).modify (s.slot kind) (·.wired (s.spoke kind e.nextState) e.nextState)
      else e.controllers kind := by
    cases kind with
    | behavior => rfl
    | render =>
      change withAnimation e.nextState s e.renderControllers = _
      unfold withAnimation LoopState.uses LoopState.spoke
      cases s.animation <;> rfl
  rw [hmodify]
  unfold LoopState.wires
  cases s.uses kind with
  | false => rfl
  | true =>
    rw [if_pos rfl, List.getElem?_modify]
    by_cases hi : s.slot kind = i
    · simp [hi]
    · simp [hi]

theorem mem_controllers_withLoopState {e : Entity} {s : LoopState} {kind : ControllerKind}
    {c : Controller} (h : c ∈ (e.withLoopState s).controllers kind) :
    c ∈ e.controllers kind ∨ ∃ d ∈ e.controllers kind, ∃ spoke,
      s.Spoke e.nextState spoke ∧ c = d.wired spoke e.nextState := by
  obtain ⟨i, hi⟩ := List.mem_iff_getElem?.mp h
  rw [controllers_withLoopState] at hi
  split at hi
  · obtain ⟨d, hd, rfl⟩ := Option.map_eq_some_iff.mp hi
    exact Or.inr ⟨d, List.mem_of_getElem? hd, _, s.spoke_of_kind kind e.nextState, rfl⟩
  · exact Or.inl (List.mem_of_getElem? hi)

/-- What the check of a loop state promises to the steps after it. -/
structure Acceptable (s : LoopState) (e : Entity) : Prop where
  commands : s.usesCommands → ∃ c, e.behaviorControllers[s.behaviorController]? = some c ∧
    c.hasState e.nextState.label = false
  animation : s.animation.isSome → ∃ c, e.renderControllers[s.renderController]? = some c ∧
    c.hasState e.nextState.label = false
  unreserved : ∀ name ∈ s.mentions, Branch.isReserved name = false
  target : ∀ name, s.name = some name → e.branches.checkTarget name e.nextState = .ok ()

section Checking

variable {β : Type} {x : Except BuildError Unit} {f : Unit → Except BuildError β} {b : β}
  {s : LoopState} {e : Entity} {kind : ControllerKind} {index : Nat}

private theorem check_then {p : Prop} [Decidable p] :
    (if p then x >>= f else f ()) = .ok b ↔ (p → x = .ok ()) ∧ f () = .ok b := by
  by_cases hp : p
  · cases x with
    | error c => simp [hp, bind, Except.bind]
    | ok u => simp [hp, bind, Except.bind]
  · simp [hp]

theorem checkIndex_ok : checkIndex kind index e = .ok () ↔ index < (e.controllers kind).length := by
  unfold checkIndex
  split <;> simp_all

theorem checkFree_ok {state : String} :
    checkFree kind index state e = .ok () ↔
      ∃ c, (e.controllers kind)[index]? = some c ∧ c.hasState state = false := by
  unfold checkFree
  cases (e.controllers kind)[index]? with
  | none => simp
  | some c => cases hs : c.hasState state <;> simp [hs]

theorem checkLoopState_ok : checkLoopState s e = .ok () ↔ Acceptable s e := by
  have hreserved : s.mentions.find? Branch.isReserved = none ↔
      ∀ name ∈ s.mentions, Branch.isReserved name = false := by
    simp [List.find?_eq_none]
  unfold checkLoopState
  rw [check_then, check_then, check_then, check_then, checkIndex_ok, checkIndex_ok,
    checkFree_ok, checkFree_ok]
  constructor
  · rintro ⟨-, -, hc, ha, hn⟩
    cases hm : s.mentions.find? Branch.isReserved with
    | some name =>
      simp only [hm] at hn
      cases hn
    | none =>
      refine ⟨hc, ha, hreserved.mp hm, ?_⟩
      intro name hname
      simp only [hm, hname] at hn
      exact hn
  · rintro ⟨hc, ha, hn, ht⟩
    have hbound {cs : List Controller} {i : Nat} {p : Controller → Prop}
        (h : ∃ c, cs[i]? = some c ∧ p c) : i < cs.length := by
      obtain ⟨c, hc, -⟩ := h
      exact (List.getElem?_eq_some_iff.mp hc).1
    refine ⟨fun h => hbound (hc h), fun h => hbound (ha h), hc, ha, ?_⟩
    simp only [hreserved.mpr hn]
    cases hname : s.name with
    | none => rfl
    | some name => exact ht name hname

end Checking

variable {s : LoopState} {e : Entity} {id : StateId}

private theorem set_eq_modify {cs : List Controller} {i : Nat} {c : Controller}
    (h : cs[i]? = some c) (f : Controller → Controller) : cs.set i (f c) = cs.modify i f := by
  rw [List.modify_eq_set, h]
  rfl

theorem wireCommands_apply (h : s.usesCommands → ∃ c,
    e.behaviorControllers[s.behaviorController]? = some c ∧ c.hasState id.label = false) :
    (wireCommands id s).apply e =
      ({ e with behaviorControllers := withCommands id s e.behaviorControllers }, .ok ()) := by
  unfold wireCommands withCommands
  by_cases hu : s.usesCommands = true
  · obtain ⟨c, hc, hf⟩ := h hu
    rw [if_pos hu, if_pos hu, ← set_eq_modify hc]
    exact Assembly.apply_onController hc (Controller.wireSpoke_ok rfl hf)
  · rw [if_neg hu, if_neg hu]
    rfl

theorem wireAnimation_apply (h : s.animation.isSome → ∃ c,
    e.renderControllers[s.renderController]? = some c ∧ c.hasState id.label = false) :
    (wireAnimation id s).apply e =
      ({ e with renderControllers := withAnimation id s e.renderControllers }, .ok ()) := by
  unfold wireAnimation withAnimation
  cases ha : s.animation with
  | none => rfl
  | some animation =>
    obtain ⟨c, hc, hf⟩ := h (by simp [ha])
    simp only [← set_eq_modify hc]
    exact Assembly.apply_onController hc (Controller.wireSpoke_ok rfl hf)

theorem bindName_apply (h : ∀ name, s.name = some name → e.branches.checkTarget name id = .ok ()) :
    (bindName id s).apply e = ({ e with branches := e.branches.bind s.name id }, .ok ()) := by
  unfold bindName
  cases hn : s.name with
  | none => rfl
  | some name =>
    have ht := Registry.setTarget_ok (h name hn)
    simp only [Assembly.apply_mk, ht]

theorem extend_eq (id : StateId) (s : LoopState) (e : Entity) (cs ds : List Controller) :
    closeLoop id s ((seedProperties id s { e with
      behavior := e.behavior.addGroup (s.group id), behaviorControllers := cs,
      renderControllers := ds }).onBehavior (·.addEvent (s.event id))) =
    { e with
      behavior := s.extend id e.behavior, behaviorControllers := cs,
      renderControllers := ds } := by
  unfold closeLoop seedProperties LoopState.extend
  cases s.properties with
  | none => split <;> rfl
  | some properties =>
    by_cases hf : id.isFirst = true
    · simp [hf, onBehavior, Behavior.addGroup, Behavior.addEvent]
    · by_cases hl : s.last = true
      · simp [hf, hl, onBehavior, Behavior.addGroup, Behavior.addEvent, Behavior.modifyEvent]
      · simp [hf, hl, onBehavior, Behavior.addGroup, Behavior.addEvent]

/-- An acceptable loop state is added as a whole. -/
theorem addLoopState_accepted (h : Acceptable s e) :
    (addLoopState s).apply e = (e.withLoopState s, .ok e.nextState) := by
  let grouped : Entity := e.onBehavior (·.addGroup (s.group e.nextState))
  let commanded : Entity :=
    { grouped with behaviorControllers := withCommands e.nextState s e.behaviorControllers }
  let animated : Entity :=
    { commanded with renderControllers := withAnimation e.nextState s e.renderControllers }
  let closed : Entity :=
    { animated with behavior := s.extend e.nextState e.behavior }
  have hcheck : (Assembly.check (checkLoopState s)).apply e = (e, .ok ()) := by
    rw [Assembly.apply_check, checkLoopState_ok.mpr h]
  have hcommands : (wireCommands e.nextState s).apply grouped = (commanded, .ok ()) :=
    wireCommands_apply h.commands
  have hanimation : (wireAnimation e.nextState s).apply commanded = (animated, .ok ()) :=
    wireAnimation_apply h.animation
  have hclosed : closeLoop e.nextState s ((seedProperties e.nextState s animated).onBehavior
      (·.addEvent (s.event e.nextState))) = closed :=
    extend_eq e.nextState s e commanded.behaviorControllers animated.renderControllers
  have hname := bindName_apply (e := closed) h.target
  unfold addLoopState
  refine (Assembly.apply_bind_ok hcheck).trans ?_
  refine (Assembly.apply_bind_ok (Assembly.apply_get e)).trans ?_
  refine (Assembly.apply_bind_ok (Assembly.apply_update _ e)).trans ?_
  refine (Assembly.apply_bind_ok hcommands).trans ?_
  refine (Assembly.apply_bind_ok hanimation).trans ?_
  refine (Assembly.apply_bind_ok (Assembly.apply_update _ _)).trans ?_
  refine (Assembly.apply_bind_ok (Assembly.apply_update _ _)).trans ?_
  refine (Assembly.apply_bind_ok (Assembly.apply_update _ _)).trans ?_
  rw [hclosed]
  refine (Assembly.apply_bind_ok hname).trans ?_
  rfl

theorem addLoopState_refused {c : BuildError} (h : checkLoopState s e = .error c) :
    (addLoopState s).apply e = (e, .error c) :=
  Assembly.apply_bind_error ((Assembly.apply_check _ e).trans (by rw [h]))

theorem setControllers_self (kind : ControllerKind) (e : Entity) :
    e.setControllers kind (e.controllers kind) = e := by
  cases kind <;> rfl

theorem addControllerState_refused {kind : ControllerKind} {index : Nat}
    {state : Controller.State} {e' : Entity} {c : BuildError}
    (h : (addControllerState kind index state).apply e = (e', .error c)) : e' = e := by
  unfold addControllerState at h
  cases hd : (e.controllers kind)[index]? with
  | none =>
    rw [Assembly.apply_onController_none hd] at h
    exact (congrArg Prod.fst h).symm
  | some d =>
    obtain ⟨hi, hget⟩ := List.getElem?_eq_some_iff.mp hd
    by_cases hs : d.hasState state.id = true
    · have hf : d.addStates [state] = (d, .error (.duplicateState d.id state.id)) := by
        rw [Controller.addStates_single, if_pos hs]
      rw [Assembly.apply_onController hd hf, ← hget, List.set_getElem_self,
        setControllers_self] at h
      exact (congrArg Prod.fst h).symm
    · have hf : d.addStates [state] = ({ d with states := d.states ++ [state] }, .ok ()) := by
        rw [Controller.addStates_single, if_neg hs]
      rw [Assembly.apply_onController hd hf] at h
      cases congrArg Prod.snd h

theorem resolveBranches_refused {c : BuildError} (h : e.branches.resolved = .error c) :
    resolveBranches.apply e = (e, .error c) :=
  Assembly.apply_bind_error ((Assembly.apply_check _ e).trans (by rw [h]))

theorem resolveBranches_accepted {branches : List ResolvedBranch}
    (h : e.branches.resolved = .ok branches) :
    resolveBranches.apply e =
      (if branches.isEmpty then e else e.withResolved branches, .ok ()) := by
  unfold resolveBranches
  refine (Assembly.apply_bind_ok ((Assembly.apply_check _ e).trans (by rw [h]))).trans ?_
  cases branches with
  | nil => rfl
  | cons b bs => rfl

/-- The steps of adding a loop state that could fail after its check, all of which succeed:
the component of its damage, the spokes in both controllers, and the binding of its name. -/
structure LateStepsSucceed (s : LoopState) (e : Entity) : Prop where
  attack : ∀ damage, s.attack = some damage →
    Component.attack damage none none = .ok (.plainAttack damage)
  behavior_index : s.usesCommands → s.behaviorController < e.behaviorControllers.length
  behavior_spoke : s.usesCommands → ∀ c, e.behaviorControllers[s.behaviorController]? = some c →
    (c.wireSpoke (s.commandSpoke e.nextState) e.nextState).2 = .ok ()
  render_index : s.animation.isSome → s.renderController < e.renderControllers.length
  render_spoke : ∀ animation, s.animation = some animation →
    ∀ c, e.renderControllers[s.renderController]? = some c →
      (c.wireSpoke (s.animationSpoke e.nextState animation) e.nextState).2 = .ok ()
  binding : ∀ name, s.name = some name → ∃ r, e.branches.setTarget name e.nextState = .ok r
  outcome : ((addLoopState s).apply e).2 = .ok e.nextState

theorem late_steps_succeed (h : Acceptable s e) : LateStepsSucceed s e where
  attack _ _ := rfl
  behavior_index hu := by
    obtain ⟨c, hc, -⟩ := h.commands hu
    exact (List.getElem?_eq_some_iff.mp hc).1
  behavior_spoke hu c hc := by
    obtain ⟨d, hd, hf⟩ := h.commands hu
    obtain rfl : d = c := Option.some.inj (hd.symm.trans hc)
    rw [Controller.wireSpoke_ok rfl hf]
  render_index ha := by
    obtain ⟨c, hc, -⟩ := h.animation ha
    exact (List.getElem?_eq_some_iff.mp hc).1
  render_spoke animation ha c hc := by
    obtain ⟨d, hd, hf⟩ := h.animation (by simp [ha])
    obtain rfl : d = c := Option.some.inj (hd.symm.trans hc)
    rw [Controller.wireSpoke_ok rfl hf]
  binding name hn := ⟨_, Registry.setTarget_ok (h.target name hn)⟩
  outcome := by rw [addLoopState_accepted h]

/-- An operation that fails has changed nothing, whatever the entity is. In particular a
loop state that passes its check is not refused by any later step. -/
theorem failed_operations_are_atomic (e e' : Entity) (c : BuildError) :
    (∀ s, (addLoopState s).apply e = (e', .error c) → e' = e) ∧
    (∀ kind index state,
      (addControllerState kind index state).apply e = (e', .error c) → e' = e) ∧
    (resolveBranches.apply e = (e', .error c) → e' = e) ∧
    (∀ s, checkLoopState s e = .ok () → LateStepsSucceed s e) := by
  refine ⟨?_, fun _ _ _ => addControllerState_refused, ?_,
    fun s h => late_steps_succeed (checkLoopState_ok.mp h)⟩
  · intro s h
    cases hc : checkLoopState s e with
    | ok u =>
      rw [addLoopState_accepted (checkLoopState_ok.mp hc)] at h
      cases congrArg Prod.snd h
    | error c =>
      rw [addLoopState_refused hc] at h
      exact (congrArg Prod.fst h).symm
  · intro h
    cases hr : e.branches.resolved with
    | ok branches =>
      rw [resolveBranches_accepted hr] at h
      cases congrArg Prod.snd h
    | error c =>
      rw [resolveBranches_refused hr] at h
      exact (congrArg Prod.fst h).symm

/-- A state leads to a branch that nobody names, and the next id is taken in the render
controller. -/
def occupied : Entity :=
  run (new "dev" "Boss" {}) [
    .createController .behavior "timing" none, .createController .render "anim" none,
    .addLoopState { connections := ["hurt"], entryCommands := some ["/say enter"] },
    .addControllerState .render 0 { id := "state_1" }]

def animatedState : LoopState :=
  { entryCommands := some ["/say b"], animation := some "animation.boss.idle" }

def hurtState : LoopState :=
  { name := some "hurt", exitCommands := some ["/say c"], attack := some (.range 2 4) }

theorem occupied_failures :
    (∃ e' c, (addLoopState animatedState).apply occupied = (e', .error c) ∧ e' = occupied) ∧
    (∃ e' c, (addControllerState .render 0 { id := "state_1" }).apply occupied =
      (e', .error c) ∧ e' = occupied) ∧
    (∃ e' c, resolveBranches.apply occupied = (e', .error c) ∧ e' = occupied) ∧
    checkLoopState hurtState occupied = .ok () ∧ LateStepsSucceed hurtState occupied := by
  have hstate : (addLoopState animatedState).apply occupied =
      (occupied, .error (.duplicateState "controller.animation.boss_anim" "state_1")) :=
    addLoopState_refused (by decide +kernel)
  have hspoke : (addControllerState .render 0 { id := "state_1" }).apply occupied =
      (occupied, .error (.duplicateState "controller.animation.boss_anim" "state_1")) := by
    rfl
  have hresolve : resolveBranches.apply occupied =
      (occupied, .error (.unresolvedBranch "hurt" ["state_0"])) :=
    resolveBranches_refused (by decide +kernel)
  have hcheck : checkLoopState hurtState occupied = .ok () := by decide +kernel
  exact ⟨⟨_, _, hstate, (failed_operations_are_atomic _ _ _).1 _ hstate⟩,
    ⟨_, _, hspoke, (failed_operations_are_atomic _ _ _).2.1 _ _ _ hspoke⟩,
    ⟨_, _, hresolve, (failed_operations_are_atomic _ _ _).2.2.1 hresolve⟩,
    hcheck, (failed_operations_are_atomic occupied occupied .incompleteEffect).2.2.2 _ hcheck⟩

end Entity
end EntityPack
