import EntityPack.Proofs.Run

/-!
# Controllers along a run

A controller keeps its position. An operation can create it, append one new state that was
handed over, wire the spoke of a loop state into it, or resolve it. Everything else leaves
its states and its initial state as they are.
-/
namespace EntityPack

def StateId.entrance (k : StateId) : String × String := (k.label, k.activeCondition)

namespace Controller

/-- The hub as it stands, which is blank where there is none. -/
def hub (c : Controller) : State := (c.state? hubState).getD { id := hubState }

variable {c : Controller} {s spoke : State} {id : String} {k : StateId}

theorem hasState_false_iff : c.hasState id = false ↔ c.state? id = none := by
  rw [hasState, Option.isSome_eq_false_iff, Option.isNone_iff_eq_none]

theorem state?_snoc (s : State) (c : Controller) (id : String) :
    state? id { c with states := c.states ++ [s] } =
      (c.state? id).or (if s.id = id then some s else none) := by
  unfold state?
  rw [List.find?_append, find?_key_cons, List.find?_nil]

theorem state?_snoc_of_some (h : c.state? id = some spoke) (s : State) :
    state? id { c with states := c.states ++ [s] } = some spoke := by
  rw [state?_snoc, h, Option.some_or]

theorem state?_ensureState (c : Controller) (id : String) :
    (c.ensureState hubState).state? id = if id = hubState then some c.hub else c.state? id := by
  unfold ensureState hub
  cases hh : c.state? hubState with
  | some found =>
    have hhas : c.hasState hubState = true := by simp [hasState, hh]
    rw [if_pos hhas]
    by_cases hid : id = hubState
    · rw [if_pos hid, hid, hh, Option.getD_some]
    · rw [if_neg hid]
  | none =>
    have hhas : ¬ c.hasState hubState = true := by simp [hasState, hh]
    rw [if_neg hhas, state?_snoc]
    by_cases hid : id = hubState
    · rw [if_pos hid, if_pos hid.symm, hid, hh, Option.none_or, Option.getD_none]
    · rw [if_neg hid, if_neg (Ne.symm hid), Option.or_none]

theorem state?_linked (k : StateId) (c : Controller) (id : String) :
    (c.linked k).state? id =
      if id = hubState then some (c.hub.addTransitions [k.entrance]) else c.state? id := by
  let started : Controller := { c with initial := hubState }
  have hadd : ∀ s : State, (s.addTransitions [k.entrance]).id = s.id := fun _ => rfl
  have hfind : (c.linked k).state? id = if id = hubState
      then ((started.ensureState hubState).state? id).map (·.addTransitions [k.entrance])
      else (started.ensureState hubState).state? id :=
    find?_modifyFirst hadd (started.ensureState hubState).states
  rw [hfind, state?_ensureState]
  by_cases hid : id = hubState
  · rw [if_pos hid, if_pos hid, if_pos hid]
    rfl
  · rw [if_neg hid, if_neg hid, if_neg hid]
    rfl

/-- A spoke that is new to the controller is found there, and so is the hub that leads to it. -/
theorem state?_wired (hs : spoke.id = k.label) (hc : c.hasState k.label = false) :
    (c.wired spoke k).state? id =
      if id = hubState then some (c.hub.addTransitions [k.entrance])
      else if id = k.label then some spoke else c.state? id := by
  have hsnoc : (c.wired spoke k).state? id =
      ((c.linked k).state? id).or (if spoke.id = id then some spoke else none) :=
    state?_snoc spoke (c.linked k) id
  rw [hsnoc, state?_linked, hs]
  by_cases hhub : id = hubState
  · rw [if_pos hhub, if_pos hhub, Option.some_or]
  · rw [if_neg hhub, if_neg hhub]
    by_cases hk : id = k.label
    · rw [hk, if_pos rfl, if_pos rfl, hasState_false_iff.mp hc, Option.none_or]
    · rw [if_neg hk, if_neg (Ne.symm hk), Option.or_none]

theorem initial_wired (spoke : State) (k : StateId) (c : Controller) :
    (c.wired spoke k).initial = hubState := by
  unfold wired linked modifyState ensureState
  split <;> rfl

theorem ids_snoc_nodup (hd : (c.states.map State.id).Nodup) (hs : c.hasState s.id = false) :
    ((c.states ++ [s]).map State.id).Nodup := by
  have hnew : s.id ∉ c.states.map State.id := by
    rw [← hasState_iff, hs]
    exact Bool.false_ne_true
  rw [List.map_append, List.map_singleton]
  refine List.nodup_append.mpr ⟨hd, List.nodup_singleton _, ?_⟩
  rintro a ha b hb rfl
  exact hnew (List.mem_singleton.mp hb ▸ ha)

theorem ids_ensureState_nodup (hd : (c.states.map State.id).Nodup) (id : String) :
    ((c.ensureState id).states.map State.id).Nodup := by
  unfold ensureState
  split
  · exact hd
  · rename_i hfree
    exact ids_snoc_nodup hd (Bool.eq_false_iff.mpr hfree)

theorem ids_wired_nodup (hd : (c.states.map State.id).Nodup) (hs : spoke.id = k.label)
    (hc : c.hasState k.label = false) : ((c.wired spoke k).states.map State.id).Nodup := by
  have hlinked : ((c.linked k).states.map State.id).Nodup := by
    unfold linked
    rw [ids_modifyState fun _ => by rfl]
    have hstart : (({ c with initial := hubState } : Controller).states.map State.id).Nodup := hd
    exact ids_ensureState_nodup hstart hubState
  refine ids_snoc_nodup hlinked ?_
  rw [hs, hasState_linked, hc]

/-- Every transition of a wired controller was there before, leads from the hub to the spoke, or
belongs to the spoke. -/
theorem transition_wired {source : State} {t : String × String}
    (hs : source ∈ (c.wired spoke k).states) (ht : t ∈ source.transitions) :
    (∃ old ∈ c.states, old.id = source.id ∧ t ∈ old.transitions) ∨
      (source.id = hubState ∧ t = k.entrance) ∨ (source = spoke ∧ t ∈ spoke.transitions) := by
  have hensured : ∀ old ∈ (({ c with initial := hubState } : Controller).ensureState
      hubState).states, old ∈ c.states ∨ old = { id := hubState } := by
    intro old hold
    unfold ensureState at hold
    split at hold
    · exact Or.inl hold
    · exact (List.mem_append.mp hold).imp_right List.mem_singleton.mp
  rcases List.mem_append.mp hs with hs | hs
  · rcases mem_modifyFirst hs with hs | ⟨old, hold, hhub, rfl⟩
    · rcases hensured source hs with hs | rfl
      · exact Or.inl ⟨source, hs, rfl, ht⟩
      · cases ht
    · rcases List.mem_append.mp ht with ht | ht
      · rcases hensured old hold with hold | rfl
        · exact Or.inl ⟨old, hold, rfl, ht⟩
        · cases ht
      · exact Or.inr (Or.inl ⟨beq_iff_eq.mp hhub, List.mem_singleton.mp ht⟩)
  · obtain rfl := List.mem_singleton.mp hs
    exact Or.inr (Or.inr ⟨rfl, ht⟩)

theorem state?_resolveController (branches : List ResolvedBranch) (id : String) (c : Controller) :
    (Branch.resolveController branches c).state? id =
      (c.state? id).map (Branch.resolveState branches) := by
  unfold state? Branch.resolveController
  rw [List.find?_map]
  rfl

end Controller

namespace Entity

variable {e : Entity} {s : LoopState} {kind : ControllerKind} {i : Nat}

/-- An acceptable state finds its controllers, and its number is new to them. -/
theorem Acceptable.controller (h : Acceptable s e) (hw : s.wires kind i = true) :
    ∃ c, (e.controllers kind)[i]? = some c ∧ c.hasState e.nextState.label = false := by
  unfold LoopState.wires at hw
  rw [Bool.and_eq_true, beq_iff_eq] at hw
  obtain ⟨huses, rfl⟩ := hw
  cases kind with
  | behavior => exact h.commands huses
  | render => exact h.animation huses

def given (e : Entity) (kind : ControllerKind) (i : Nat) : Operation → List Controller.State
  | .addController k c => if k = kind ∧ (e.controllers kind).length = i then c.states else []
  | .addControllerState k j s =>
    match ((addControllerState k j s).apply e).2 with
    | .ok _ => if k = kind ∧ j = i then [s] else []
    | .error _ => []
  | _ => []

def givenTo (e : Entity) (kind : ControllerKind) (i : Nat) :
    List Operation → List Controller.State
  | [] => []
  | op :: ops => given e kind i op ++ givenTo (after e op) kind i ops

theorem givenTo_append (e : Entity) (kind : ControllerKind) (i : Nat) (ops ops' : List Operation) :
    givenTo e kind i (ops ++ ops') =
      givenTo e kind i ops ++ givenTo (run e ops) kind i ops' := by
  induction ops generalizing e with
  | nil => rfl
  | cons op ops ih =>
    rw [List.cons_append, givenTo, givenTo, ih, List.append_assoc]
    rfl

def Operation.Resolves : Operation → Prop
  | .resolveBranches | .build => True
  | _ => False

/-- What an operation does to the controller at a position, given the loop states that it
accepts and the states that it hands over. -/
inductive Change (e : Entity) (kind : ControllerKind) (i : Nat) (op : Operation) :
    List Placed → List Controller.State → Option Controller → Prop where
  | vacant {added} : (e.controllers kind)[i]? = none →
      (∀ p ∈ added, p.state.wires kind i = false) → Change e kind i op added [] none
  | kept {added c c'} : (e.controllers kind)[i]? = some c →
      (∀ p ∈ added, p.state.wires kind i = false) →
      c'.initial = c.initial → c'.states = c.states → Change e kind i op added [] (some c')
  | created {c} : (e.controllers kind)[i]? = none → c.states = [] ∨ op = .addController kind c →
      Change e kind i op [] c.states (some c)
  | extended {c s} : (e.controllers kind)[i]? = some c → c.hasState s.id = false →
      Change e kind i op [] [s] (some { c with states := c.states ++ [s] })
  | wired {c s group} : (e.controllers kind)[i]? = some c →
      c.hasState e.nextState.label = false → s.wires kind i = true →
      Change e kind i op [⟨s, group⟩] []
        (some (c.wired (s.spoke kind e.nextState) e.nextState))
  | resolved {c branches} : (e.controllers kind)[i]? = some c →
      e.branches.resolved = .ok branches → op.Resolves →
      Change e kind i op [] [] (some (Branch.resolveController branches c))

theorem controllers_setControllers (k kind : ControllerKind) (cs : List Controller) (e : Entity) :
    (e.setControllers k cs).controllers kind = if k = kind then cs else e.controllers kind := by
  cases k <;> cases kind <;> rfl

theorem controllers_addController (k kind : ControllerKind) (c : Controller) (e : Entity) :
    (e.addController k c).controllers kind =
      if k = kind then e.controllers kind ++ [c] else e.controllers kind := by
  cases k <;> cases kind <;> rfl

theorem controllers_setId (id : String) (e : Entity) (kind : ControllerKind) :
    ∃ f : Controller → Controller, (∀ c, (f c).initial = c.initial ∧ (f c).states = c.states) ∧
      (setId id e).controllers kind = (e.controllers kind).map f := by
  simp only [setId]
  split
  · refine ⟨fun c => c, fun _ => ⟨rfl, rfl⟩, ?_⟩
    cases kind <;> exact (List.map_id _).symm
  · refine ⟨renameController (controllerStem e.id) (controllerStem id), fun _ => ⟨rfl, rfl⟩, ?_⟩
    cases kind <;> rfl

theorem controllers_withResolved (branches : List ResolvedBranch) (e : Entity)
    (kind : ControllerKind) : (e.withResolved branches).controllers kind =
      (e.controllers kind).map (Branch.resolveController branches) := by
  cases kind <;> rfl

section Changes

variable {op : Operation}

theorem Change.same {added : List Placed} {c? : Option Controller}
    (h : c? = (e.controllers kind)[i]?) (hadded : ∀ p ∈ added, p.state.wires kind i = false) :
    Change e kind i op added [] c? := by
  rw [h]
  cases hc : (e.controllers kind)[i]? with
  | none => exact .vacant hc hadded
  | some c => exact .kept hc hadded rfl rfl

theorem change_addController {k : ControllerKind} {c : Controller}
    (hc : c.states = [] ∨ op = .addController k c) :
    Change e kind i op [] (if k = kind ∧ (e.controllers kind).length = i then c.states else [])
      ((e.addController k c).controllers kind)[i]? := by
  rw [controllers_addController]
  by_cases hk : k = kind
  · subst hk
    rw [if_pos rfl]
    rcases Nat.lt_trichotomy i (e.controllers k).length with hlt | rfl | hgt
    · have hother : ¬ (k = k ∧ (e.controllers k).length = i) := fun h => by omega
      rw [if_neg hother, List.getElem?_append_left hlt]
      exact .same rfl (by simp)
    · rw [if_pos ⟨rfl, rfl⟩, List.getElem?_concat_length]
      exact .created (List.getElem?_eq_none (Nat.le_refl _)) hc
    · have hother : ¬ (k = k ∧ (e.controllers k).length = i) := fun h => by omega
      have hlen : (e.controllers k ++ [c]).length ≤ i := by
        rw [List.length_append]
        exact hgt
      rw [if_neg hother, List.getElem?_eq_none hlen]
      exact .vacant (List.getElem?_eq_none (Nat.le_of_lt hgt)) (by simp)
  · rw [if_neg hk, if_neg fun h => hk h.1]
    exact .same rfl (by simp)

theorem change_addControllerState (k : ControllerKind) (j : Nat) (state : Controller.State) :
    Change e kind i op [] (given e kind i (.addControllerState k j state))
      ((after e (.addControllerState k j state)).controllers kind)[i]? := by
  rw [after_addControllerState, controllers_setControllers, given]
  by_cases hhere : k = kind ∧ j = i
  · obtain ⟨rfl, rfl⟩ := hhere
    rw [if_pos rfl, List.getElem?_modify_eq]
    cases hd : (e.controllers k)[j]? with
    | none =>
      rw [addControllerState, Assembly.apply_onController_none hd]
      exact .vacant hd (by simp)
    | some d =>
      have houtcome : ((addControllerState k j state).apply e).2 = (d.addStates [state]).2 :=
        congrArg Prod.snd (Assembly.apply_onController hd rfl)
      rw [houtcome, Option.map_eq_map, Option.map_some, Controller.addStates_single]
      cases hs : d.hasState state.id with
      | true => exact .kept hd (by simp) rfl rfl
      | false =>
        have hextended : Change e k j op [] [state]
          (some { d with states := d.states ++ [state] }) := .extended hd hs
        simpa using hextended
  · have hgiven : (match ((addControllerState k j state).apply e).2 with
        | .ok _ => if k = kind ∧ j = i then [state] else []
        | .error _ => []) = [] := by
      split <;> simp [hhere]
    rw [hgiven]
    refine .same ?_ (by simp)
    by_cases hk : k = kind
    · have hj : j ≠ i := fun hj => hhere ⟨hk, hj⟩
      rw [if_pos hk, hk]
      exact List.getElem?_modify_ne _ _ hj
    · rw [if_neg hk]

/-- Everything an operation can do to the controller at a position. -/
theorem change_after (e : Entity) (op : Operation) (kind : ControllerKind) (i : Nat) :
    Change e kind i op (record e op) (given e kind i op)
      ((after e op).controllers kind)[i]? := by
  have resolution : ∀ op : Operation, op.Resolves →
      Change e kind i op [] [] ((after e .resolveBranches).controllers kind)[i]? := by
    intro op hop
    rcases after_resolveBranches e with ⟨branches, hr, heq⟩ | heq
    · rw [heq, controllers_withResolved, List.getElem?_map]
      cases hc : (e.controllers kind)[i]? with
      | none => exact .vacant hc (by simp)
      | some c => exact .resolved hc hr hop
    · rw [heq]
      exact .same rfl (by simp)
  cases op with
  | setId id =>
    obtain ⟨f, hf, heq⟩ := controllers_setId id e kind
    have hafter : (after e (.setId id)).controllers kind = (e.controllers kind).map f := heq
    rw [hafter, List.getElem?_map]
    cases hc : (e.controllers kind)[i]? with
    | none => exact .vacant hc (by simp [record])
    | some c => exact .kept hc (by simp [record]) (hf c).1 (hf c).2
  | createController k suffix initial =>
    let created : Controller :=
      { id := controllerStem e.id ++ suffix, initial := initial.getD hubState }
    have hcreated : Change e kind i (.createController k suffix initial) []
        (if k = kind ∧ (e.controllers kind).length = i then [] else [])
        ((e.addController k created).controllers kind)[i]? :=
      change_addController (c := created) (Or.inl rfl)
    rw [ite_self] at hcreated
    exact hcreated
  | addController k c => exact change_addController (Or.inr rfl)
  | addControllerState k j state => exact change_addControllerState k j state
  | addLoopState s =>
    rcases after_addLoopState s e with ⟨ha, heq, hrec⟩ | ⟨heq, hrec⟩
    · rw [heq, hrec, controllers_withLoopState]
      cases hw : s.wires kind i with
      | false =>
        rw [if_neg (by simp)]
        exact .same rfl fun p hp => by rw [List.mem_singleton.mp hp, hw]
      | true =>
        obtain ⟨c, hc, hfree⟩ := ha.controller hw
        rw [if_pos rfl, hc]
        exact .wired hc hfree hw
    · rw [heq, hrec]
      exact .same rfl (by simp)
  | resolveBranches => exact resolution _ trivial
  | build =>
    rw [after_build]
    exact resolution _ trivial
  | _ => exact .same (by cases kind <;> rfl) (by simp [record])

end Changes

end Entity
end EntityPack
