import EntityPack.Proofs.History
import EntityPack.Proofs.Outline
import EntityPack.Script

/-!
# Which scripts are accepted

The loop states of a script meet controllers that hold nothing but the hub and the spokes of
earlier states, and a registry that holds nothing but their mentions. So whether a script is
accepted, and whether its branches resolve, can be read from the script.
-/
namespace EntityPack

/-- A reason to refuse a loop state, with so many controllers and behind the earlier states. -/
inductive LoopState.Fault (behaviors renders : Nat) (earlier : List LoopState) (s : LoopState) :
    Prop where
  | commands : s.usesCommands = true → behaviors ≤ s.behaviorController → Fault ..
  | animation : s.animation.isSome = true → renders ≤ s.renderController → Fault ..
  | reserved {name} : name ∈ s.mentions → Branch.isReserved name = true → Fault ..
  | repeated {name other} : other ∈ earlier → other.name = some name → s.name = some name →
      Fault ..

namespace EntityScript

def sourcesOf (name : String) (states : List LoopState) : List StateId :=
  states.zipIdx.filterMap fun p => if name ∈ p.1.leadsTo then some ⟨p.2⟩ else none

def Faulty (s : EntityScript) (i : Nat) : Prop :=
  ∃ state, s.states[i]? = some state ∧
    state.Fault s.behaviorControllers.length s.renderControllers.length (s.states.take i)

structure Valid (s : EntityScript) : Prop where
  commands : ∀ state ∈ s.states, state.usesCommands = true →
    state.behaviorController < s.behaviorControllers.length
  animations : ∀ state ∈ s.states, state.animation.isSome = true →
    state.renderController < s.renderControllers.length
  unreserved : ∀ state ∈ s.states, ∀ name ∈ state.mentions, Branch.isReserved name = false
  names : (s.states.filterMap LoopState.name).Nodup

/-- An entity with these loop states put on a base whose controllers hold no states. -/
structure Drafted (base : Entity) (states : List LoopState) (e : Entity) : Prop where
  recorded : e.Recorded (states.map fun state => ⟨state, 0⟩)
  behaviors : e.behaviorControllers.length = base.behaviorControllers.length
  renders : e.renderControllers.length = base.renderControllers.length
  fresh : ∀ kind, ∀ c ∈ e.controllers kind, ∀ id ∈ c.states.map Controller.State.id,
    id = hubState ∨ ∃ k : StateId, id = k.label ∧ k.index < states.length
  sources : ∀ name, (e.branches.entry name).sources = sourcesOf name states
  order : e.branches.InOrder (states.flatMap fun state => state.name.toList ++ state.leadsTo)
  groups : e.behavior.groups =
    base.behavior.groups ++ states.mapIdx fun i state => state.group ⟨i⟩
  events : e.behavior.events.map Event.withoutRemoves =
    base.behavior.events.map Event.withoutRemoves ++
      states.mapIdx fun i state => (state.event ⟨i⟩).withoutRemoves

variable {base e : Entity} {states : List LoopState} {state : LoopState} {s : EntityScript}

theorem sourcesOf_eq_positions (name : String) (states : List LoopState) :
    sourcesOf name states = StateId.positions (fun s => decide (name ∈ s.leadsTo)) states := by
  simp [sourcesOf, StateId.positions]

theorem sourcesOf_snoc (name : String) (states : List LoopState) (state : LoopState) :
    sourcesOf name (states ++ [state]) =
      sourcesOf name states ++ if name ∈ state.leadsTo then [⟨states.length⟩] else [] := by
  simp [sourcesOf_eq_positions, StateId.positions_snoc]

namespace Drafted

theorem count (h : Drafted base states e) : e.stateCount = states.length := by
  rw [h.recorded.count, List.length_map]

theorem free (h : Drafted base states e) (kind : ControllerKind) {c : Controller}
    (hc : c ∈ e.controllers kind) : c.hasState e.nextState.label = false := by
  rw [Bool.eq_false_iff, ne_eq, Controller.hasState_iff]
  intro hm
  rcases h.fresh kind c hc _ hm with hhub | ⟨k, hk, hlt⟩
  · exact StateId.label_ne_hub _ hhub
  · have hnext := StateId.label_injective hk
    rw [← hnext] at hlt
    exact Nat.lt_irrefl _ (h.count ▸ hlt)

theorem named_iff {name : String} {k : StateId} :
    Entity.Named (states.map fun state => ⟨state, 0⟩) name k ↔
      ∃ state, states[k.index]? = some state ∧ state.name = some name := by
  unfold Entity.Named Entity.Accepted
  rw [List.getElem?_map]
  cases states[k.index]? <;> simp

theorem acceptable_iff (h : Drafted base states e) : Entity.Acceptable state e ↔
    ¬ state.Fault base.behaviorControllers.length base.renderControllers.length states := by
  constructor
  · intro ha hfault
    cases hfault with
    | commands hu hlen =>
      obtain ⟨c, hc, -⟩ := ha.commands hu
      have hlt := (List.getElem?_eq_some_iff.mp hc).1
      have hb := h.behaviors
      omega
    | animation hs hlen =>
      obtain ⟨c, hc, -⟩ := ha.animation hs
      have hlt := (List.getElem?_eq_some_iff.mp hc).1
      have hr := h.renders
      omega
    | reserved hm hr =>
      rw [ha.unreserved _ hm] at hr
      cases hr
    | @repeated name other hm ho hs =>
      obtain ⟨k, hk⟩ := List.mem_iff_getElem?.mp hm
      exact h.recorded.name_free ha hs ⟨k⟩ (named_iff.mpr ⟨other, hk, ho⟩)
  · intro hfault
    refine ⟨fun hu => ?_, fun hs => ?_, fun name hm => ?_, fun name hn => ?_⟩
    · have hlt : state.behaviorController < e.behaviorControllers.length :=
        Nat.lt_of_not_le fun hle => hfault (.commands hu (h.behaviors ▸ hle))
      exact ⟨_, List.getElem?_eq_getElem hlt, h.free .behavior (List.getElem_mem hlt)⟩
    · have hlt : state.renderController < e.renderControllers.length :=
        Nat.lt_of_not_le fun hle => hfault (.animation hs (h.renders ▸ hle))
      exact ⟨_, List.getElem?_eq_getElem hlt, h.free .render (List.getElem_mem hlt)⟩
    · rw [Bool.eq_false_iff]
      exact fun hr => hfault (.reserved hm hr)
    · rw [Registry.checkTarget_ok]
      intro k hk
      obtain ⟨other, ho, hname⟩ := named_iff.mp ((h.recorded.target name k).mp hk)
      exact (hfault (.repeated (List.mem_of_getElem? ho) hname hn)).elim

theorem nextState (h : Drafted base states e) : e.nextState = ⟨states.length⟩ :=
  congrArg StateId.mk h.count

theorem fresh_later (h : Drafted base states e) (state : LoopState) (kind : ControllerKind)
    {c : Controller} (hc : c ∈ e.controllers kind) {id : String}
    (hid : id ∈ c.states.map Controller.State.id) :
    id = hubState ∨ ∃ k : StateId, id = k.label ∧ k.index < (states ++ [state]).length := by
  rcases h.fresh kind c hc id hid with hhub | ⟨k, hk, hlt⟩
  · exact Or.inl hhub
  · refine Or.inr ⟨k, hk, ?_⟩
    rw [List.length_append]
    exact Nat.lt_add_right _ hlt

theorem fresh_snoc (h : Drafted base states e) (state : LoopState) (kind : ControllerKind)
    {c : Controller} (hc : c ∈ (e.withLoopState state).controllers kind) {id : String}
    (hid : id ∈ c.states.map Controller.State.id) :
    id = hubState ∨ ∃ k : StateId, id = k.label ∧ k.index < (states ++ [state]).length := by
  rcases Entity.mem_controllers_withLoopState hc with hc | ⟨d, hd, spoke, hspoke, rfl⟩
  · exact h.fresh_later state kind hc hid
  · rcases Controller.mem_ids_wired.mp hid with (hm | hhub) | hm
    · exact h.fresh_later state kind hd hm
    · exact Or.inl hhub
    · refine Or.inr ⟨e.nextState, hm.trans hspoke.id_eq, ?_⟩
      rw [h.nextState, List.length_append]
      exact Nat.lt_succ_self _

theorem snoc (h : Drafted base states e) (ha : Entity.Acceptable state e) :
    Drafted base (states ++ [state]) (e.withLoopState state) where
  recorded := by
    rw [List.map_append]
    exact Entity.recorded_withLoopState h.recorded ha 0
  behaviors := by
    rw [← h.behaviors, Entity.withLoopState, Entity.withCommands]
    split
    · exact List.length_modify ..
    · rfl
  renders := by
    rw [← h.renders, Entity.withLoopState, Entity.withAnimation]
    split
    · exact List.length_modify ..
    · rfl
  fresh kind _ hc _ hid := h.fresh_snoc state kind hc hid
  sources name := by
    rw [Entity.sources_withLoopState h.recorded, sourcesOf_snoc, h.sources, h.nextState]
  order := by
    rw [List.flatMap_append, List.flatMap_singleton]
    exact Entity.order_withLoopState h.order state
  groups := by
    rw [List.mapIdx_concat, ← List.append_assoc, ← h.groups, ← h.nextState]
    rfl
  events := by
    have hclose : ∀ events : List Event, (modifyFirst (·.fullId == StateId.first.label)
        (·.ensureRemoves e.nextState.label) events).map Event.withoutRemoves =
          events.map Event.withoutRemoves :=
      map_modifyFirst _ (Event.withoutRemoves_ensureRemoves e.nextState.label)
    rw [List.mapIdx_concat, ← List.append_assoc, ← h.events, ← h.nextState,
      Entity.withLoopState, LoopState.extend]
    split <;> simp [hclose]

end Drafted

def created (id : String) (spec : ControllerSpec) : Controller :=
  { id := Entity.controllerStem id ++ spec.suffix, initial := spec.initial.getD hubState }

theorem createControllers_eq (kind : ControllerKind) (specs : List ControllerSpec) (e : Entity) :
    ∃ behavior client, createControllers kind specs e =
      { e with behavior, client }.setControllers kind
        (e.controllers kind ++ specs.map (created e.id)) := by
  induction specs generalizing e with
  | nil =>
    refine ⟨e.behavior, e.client, ?_⟩
    rw [List.map_nil, List.append_nil]
    cases kind <;> rfl
  | cons spec specs ih =>
    obtain ⟨behavior, client, heq⟩ := ih (e.createController kind spec.suffix spec.initial)
    refine ⟨behavior, client, heq.trans ?_⟩
    -- Created controllers come to the end, and no other field that is kept has changed.
    cases kind <;> simp [Entity.createController, Entity.addController, Entity.setControllers,
      Entity.controllers, created]

theorem foundation_eq (s : EntityScript) : ∃ id b client, s.foundation =
    { Entity.new s.scope s.name s.options with
      behavior := b
      client
      behaviorControllers := s.behaviorControllers.map (created id)
      renderControllers := s.renderControllers.map (created id) } := by
  obtain ⟨b, client, hbehavior⟩ :=
    createControllers_eq .behavior s.behaviorControllers (Entity.new s.scope s.name s.options)
  obtain ⟨b', client', hrender⟩ := createControllers_eq .render s.renderControllers
    (createControllers .behavior s.behaviorControllers (Entity.new s.scope s.name s.options))
  rw [hbehavior] at hrender
  refine ⟨(Entity.new s.scope s.name s.options).id,
    s.properties.foldl (fun b p => b.addProperty p) b', client', ?_⟩
  simp only [foundation, hbehavior, hrender]
  rfl

theorem drafted_foundation (s : EntityScript) : Drafted s.foundation [] s.foundation where
  recorded := by
    obtain ⟨id, b, client, heq⟩ := s.foundation_eq
    rw [heq]
    exact Entity.recorded_blank rfl rfl
  behaviors := rfl
  renders := rfl
  fresh kind c hc k hk := by
    obtain ⟨id, b, client, heq⟩ := s.foundation_eq
    rw [heq] at hc
    cases kind <;> (obtain ⟨spec, -, rfl⟩ := List.mem_map.mp hc; cases hk)
  sources name := by
    obtain ⟨id, b, client, heq⟩ := s.foundation_eq
    rw [heq]
    rfl
  order := by
    obtain ⟨id, b, client, heq⟩ := s.foundation_eq
    rw [heq]
    exact fun p => rfl
  groups := by simp
  events := by simp

def FaultyAt (base : Entity) (earlier rest : List LoopState) (i : Nat) : Prop :=
  ∃ state, rest[i]? = some state ∧ state.Fault base.behaviorControllers.length
    base.renderControllers.length (earlier ++ rest.take i)

variable {rest : List LoopState} {e' : Entity} {index i : Nat} {err : ScriptError}

theorem faultyAt_zero : FaultyAt base states (state :: rest) 0 ↔
    state.Fault base.behaviorControllers.length base.renderControllers.length states := by
  simp [FaultyAt]

theorem faultyAt_succ : FaultyAt base states (state :: rest) (i + 1) ↔
    FaultyAt base (states ++ [state]) rest i := by
  simp [FaultyAt]

theorem addStates_accepted (ha : Entity.Acceptable state e) :
    addStates index (state :: rest) e = addStates (index + 1) rest (e.withLoopState state) := by
  rw [addStates, Entity.addLoopState_accepted ha]

theorem addStates_refused {c : BuildError} (hc : Entity.checkLoopState state e = .error c) :
    addStates index (state :: rest) e = .error ⟨index, e.fullId, c⟩ := by
  rw [addStates, Entity.addLoopState_refused hc]

theorem addStates_ok (h : Drafted base states e) (ha : addStates index rest e = .ok e') :
    Drafted base (states ++ rest) e' ∧ ∀ i, ¬ FaultyAt base states rest i := by
  induction rest generalizing states e index with
  | nil =>
    cases ha
    rw [List.append_nil]
    exact ⟨h, fun i hi => by simp [FaultyAt] at hi⟩
  | cons state rest ih =>
    cases hc : Entity.checkLoopState state e with
    | error c =>
      rw [addStates_refused hc] at ha
      cases ha
    | ok u =>
      have hstate := Entity.checkLoopState_ok.mp hc
      rw [addStates_accepted hstate] at ha
      obtain ⟨hdrafted, hrest⟩ := ih (h.snoc hstate) ha
      rw [List.append_assoc] at hdrafted
      refine ⟨hdrafted, fun i hi => ?_⟩
      cases i with
      | zero => exact h.acceptable_iff.mp hstate (faultyAt_zero.mp hi)
      | succ i => exact hrest i (faultyAt_succ.mp hi)

/-- The error tells the first position at which there is a reason to refuse. -/
theorem addStates_error (h : Drafted base states e) (ha : addStates index rest e = .error err) :
    ∃ i, err.index = index + i ∧ FaultyAt base states rest i ∧
      ∀ j < i, ¬ FaultyAt base states rest j := by
  induction rest generalizing states e index with
  | nil => cases ha
  | cons state rest ih =>
    cases hc : Entity.checkLoopState state e with
    | error c =>
      rw [addStates_refused hc] at ha
      cases ha
      refine ⟨0, rfl, faultyAt_zero.mpr ?_, by simp⟩
      by_contra hno
      rw [Entity.checkLoopState_ok.mpr (h.acceptable_iff.mpr hno)] at hc
      cases hc
    | ok u =>
      have hstate := Entity.checkLoopState_ok.mp hc
      rw [addStates_accepted hstate] at ha
      obtain ⟨i, hi, hfault, hearlier⟩ := ih (h.snoc hstate) ha
      refine ⟨i + 1, by omega, faultyAt_succ.mpr hfault, fun j hj hfaulty => ?_⟩
      cases j with
      | zero => exact h.acceptable_iff.mp hstate (faultyAt_zero.mp hfaulty)
      | succ j => exact hearlier j (by omega) (faultyAt_succ.mp hfaulty)

theorem faulty_iff : s.Faulty i ↔ FaultyAt s.foundation [] s.states i := by
  obtain ⟨id, b, client, heq⟩ := s.foundation_eq
  simp [Faulty, FaultyAt, heq]

theorem names_nodup_iff (states : List LoopState) :
    (states.filterMap LoopState.name).Nodup ↔ ∀ i state, states[i]? = some state →
      ∀ name, state.name = some name → ∀ other ∈ states.take i, other.name ≠ some name := by
  unfold List.Nodup
  rw [List.pairwise_filterMap, List.pairwise_iff_getElem]
  constructor
  · intro h i state hi name hn other ho hother
    obtain ⟨hlt, rfl⟩ := List.getElem?_eq_some_iff.mp hi
    obtain ⟨j, hj, rfl⟩ := List.mem_take_iff_getElem.mp ho
    exact h j i (by omega) hlt (by omega) name hother name hn rfl
  · rintro h j i hj hi hlt name hother name' hn rfl
    refine h i states[i] (List.getElem?_eq_getElem hi) name hn states[j] ?_ hother
    exact List.mem_take_iff_getElem.mpr ⟨j, by omega, rfl⟩

theorem valid_iff : s.Valid ↔ ∀ i, ¬ s.Faulty i := by
  constructor
  · rintro h i ⟨state, hi, hfault⟩
    have hm := List.mem_of_getElem? hi
    cases hfault with
    | commands hu hlen => exact Nat.not_lt_of_le hlen (h.commands state hm hu)
    | animation hs hlen => exact Nat.not_lt_of_le hlen (h.animations state hm hs)
    | reserved hn hr =>
      rw [h.unreserved state hm _ hn] at hr
      cases hr
    | repeated ho hother hs =>
      exact (names_nodup_iff s.states).mp h.names i state hi _ hs _ ho hother
  · intro h
    have hstate : ∀ state ∈ s.states, ∃ earlier, ¬ state.Fault s.behaviorControllers.length
        s.renderControllers.length earlier := by
      intro state hm
      obtain ⟨i, hi⟩ := List.mem_iff_getElem?.mp hm
      exact ⟨_, fun hfault => h i ⟨state, hi, hfault⟩⟩
    refine ⟨fun state hm hu => ?_, fun state hm hs => ?_, fun state hm name hn => ?_, ?_⟩
    · obtain ⟨earlier, hno⟩ := hstate state hm
      exact Nat.lt_of_not_le fun hle => hno (.commands hu hle)
    · obtain ⟨earlier, hno⟩ := hstate state hm
      exact Nat.lt_of_not_le fun hle => hno (.animation hs hle)
    · obtain ⟨earlier, hno⟩ := hstate state hm
      exact Bool.eq_false_iff.mpr fun hr => hno (.reserved hn hr)
    · rw [names_nodup_iff]
      exact fun i state hi name hs other ho hother =>
        h i ⟨state, hi, .repeated ho hother hs⟩

theorem unnamed_iff (h : Drafted base states e) (name : String) :
    (e.branches.entry name).target.isNone = true ↔ ∀ state ∈ states, state.name ≠ some name := by
  have htarget := h.recorded.target name
  constructor
  · intro hnone state hm hn
    obtain ⟨i, hi⟩ := List.mem_iff_getElem?.mp hm
    have hsome := (htarget ⟨i⟩).mpr (Drafted.named_iff.mpr ⟨state, hi, hn⟩)
    rw [hsome] at hnone
    cases hnone
  · intro hno
    rw [Option.isNone_iff_eq_none, Option.eq_none_iff_forall_ne_some]
    intro k hk
    obtain ⟨state, hi, hn⟩ := Drafted.named_iff.mp ((htarget k).mp hk)
    exact hno state (List.mem_of_getElem? hi) hn

theorem named_of_target (h : Drafted base states e) {name : String}
    (ht : (e.branches.entry name).target.isNone = false) :
    ∃ state ∈ states, state.name = some name := by
  by_contra hno
  rw [(unnamed_iff h name).mpr fun state hm hn => hno ⟨state, hm, hn⟩] at ht
  cases ht

theorem resolved_error_iff (h : Drafted base states e) {c : BuildError} :
    e.branches.resolved = .error c ↔ ∃ name,
      (states.flatMap LoopState.leadsTo).find? (fun n => (e.branches.entry n).target.isNone) =
        some name ∧ c = .unresolvedBranch name ((sourcesOf name states).map StateId.label) := by
  have hnames : ∀ state ∈ states, ∀ n ∈ state.name.toList,
      (e.branches.entry n).target.isNone = false := by
    intro state hm n hn
    rw [Bool.eq_false_iff]
    exact fun hnone => (unnamed_iff h n).mp hnone state hm (Option.mem_toList.mp hn)
  rw [Registry.resolved_error, ← find?_flatMap_append hnames]
  constructor
  · rintro ⟨b, hb, rfl⟩
    obtain ⟨name, hname, rfl⟩ := (Registry.find?_target h.recorded.sound h.order).mp hb
    exact ⟨name, hname, by rw [Registry.name_entry, h.sources]⟩
  · rintro ⟨name, hname, rfl⟩
    refine ⟨_, (Registry.find?_target h.recorded.sound h.order).mpr ⟨name, hname, rfl⟩, ?_⟩
    rw [Registry.name_entry, h.sources]

theorem resolve_error_iff {c : BuildError} :
    (Entity.resolveBranches.apply e).2 = .error c ↔ e.branches.resolved = .error c := by
  cases hr : e.branches.resolved with
  | ok branches => simp [Entity.resolve_eq hr]
  | error cause => simp [Entity.resolveBranches_refused hr]

theorem resolve_fails (h : Drafted base states e) {c : BuildError}
    (hc : (Entity.resolveBranches.apply e).2 = .error c) : ∃ before name after,
      states.flatMap LoopState.leadsTo = before ++ name :: after ∧
      (∀ n ∈ before, ∃ target ∈ states, target.name = some n) ∧
      (∀ target ∈ states, target.name ≠ some name) ∧
      c = .unresolvedBranch name ((sourcesOf name states).map StateId.label) := by
  obtain ⟨name, hname, rfl⟩ := (resolved_error_iff h).mp (resolve_error_iff.mp hc)
  obtain ⟨hnone, before, after, heq, hbefore⟩ := List.find?_eq_some_iff_append.mp hname
  refine ⟨before, name, after, heq, fun n hn => ?_, (unnamed_iff h name).mp hnone, rfl⟩
  exact named_of_target h (by simpa using hbefore n hn)

theorem resolve_succeeds_iff (h : Drafted base states e) :
    (∃ e', Entity.resolveBranches.apply e = (e', .ok ())) ↔
      ∀ state ∈ states, ∀ name ∈ state.leadsTo, ∃ target ∈ states, target.name = some name := by
  constructor
  · rintro ⟨e', hok⟩ state hm name hn
    by_contra hno
    have hnone := (unnamed_iff h name).mpr fun target ht heq => hno ⟨target, ht, heq⟩
    cases hf : (states.flatMap LoopState.leadsTo).find?
        (fun n => (e.branches.entry n).target.isNone) with
    | none =>
      have hall := List.find?_eq_none.mp hf name (List.mem_flatMap.mpr ⟨state, hm, hn⟩)
      exact hall hnone
    | some first =>
      have herror := resolve_error_iff.mpr ((resolved_error_iff h).mpr ⟨first, hf, rfl⟩)
      rw [hok] at herror
      cases herror
  · intro hall
    rcases ho : Entity.resolveBranches.apply e with ⟨e', c | u⟩
    · obtain ⟨before, name, after, heq, -, hno, -⟩ := resolve_fails h (congrArg Prod.snd ho)
      have hm : name ∈ states.flatMap LoopState.leadsTo := heq ▸ by simp
      obtain ⟨state, hs, hn⟩ := List.mem_flatMap.mp hm
      obtain ⟨target, ht, hname⟩ := hall state hs name hn
      exact (hno target ht hname).elim
    · exact ⟨e', rfl⟩

theorem mem_sourcesOf {name : String} {k : StateId} :
    k ∈ sourcesOf name states ↔ ∃ state, states[k.index]? = some state ∧ name ∈ state.leadsTo := by
  simp [sourcesOf_eq_positions, StateId.mem_positions]

theorem sourcesOf_increasing (name : String) (states : List LoopState) :
    (sourcesOf name states).Pairwise fun a b => a.index < b.index := by
  rw [sourcesOf_eq_positions]
  exact StateId.positions_increasing _ states

structure Loaded (s : EntityScript) (e : Entity) : Prop where
  count : e.stateCount = s.states.length
  groups : e.behavior.groups =
    s.foundation.behavior.groups ++ s.states.mapIdx fun i state => state.group ⟨i⟩
  events : e.behavior.events.map Event.withoutRemoves =
    s.foundation.behavior.events.map Event.withoutRemoves ++
      s.states.mapIdx fun i state => (state.event ⟨i⟩).withoutRemoves

/-- A script is accepted exactly if it is valid, and the error tells the first state with a
fault. The branches of an accepted script resolve exactly if every name that a state leads
to is the name of some state; the error tells the first mention of another name and the
states that lead to it. -/
theorem script_acceptance (s : EntityScript) :
    ((∃ e, s.toEntity = .ok e) ↔ s.Valid) ∧
    (∀ err, s.toEntity = .error err → s.Faulty err.index ∧ ∀ i < err.index, ¬ s.Faulty i) ∧
    ∀ e, s.toEntity = .ok e → s.Loaded e ∧
      ((∃ e', Entity.resolveBranches.apply e = (e', .ok ())) ↔
        ∀ state ∈ s.states, ∀ name ∈ state.leadsTo,
          ∃ target ∈ s.states, target.name = some name) ∧
      ∀ c, (Entity.resolveBranches.apply e).2 = .error c →
        ∃ before name after, ∃ sources : List StateId,
        s.states.flatMap LoopState.leadsTo = before ++ name :: after ∧
        (∀ n ∈ before, ∃ target ∈ s.states, target.name = some n) ∧
        (∀ target ∈ s.states, target.name ≠ some name) ∧
        c = .unresolvedBranch name (sources.map StateId.label) ∧
        sources.Pairwise (fun a b => a.index < b.index) ∧
        ∀ k : StateId, k ∈ sources ↔
          ∃ state, s.states[k.index]? = some state ∧ name ∈ state.leadsTo := by
  have hbase := s.drafted_foundation
  have hok : ∀ e, s.toEntity = .ok e → Drafted s.foundation s.states e ∧ s.Valid := by
    intro e he
    obtain ⟨hdrafted, hno⟩ := addStates_ok hbase he
    exact ⟨hdrafted, valid_iff.mpr fun i hi => hno i (faulty_iff.mp hi)⟩
  have herror : ∀ err, s.toEntity = .error err →
      s.Faulty err.index ∧ ∀ i < err.index, ¬ s.Faulty i := by
    intro err he
    obtain ⟨i, hi, hfault, hearlier⟩ := addStates_error hbase he
    rw [Nat.zero_add] at hi
    rw [hi]
    exact ⟨faulty_iff.mpr hfault, fun j hj hj' => hearlier j hj (faulty_iff.mp hj')⟩
  refine ⟨⟨fun ⟨e, he⟩ => (hok e he).2, fun hvalid => ?_⟩, herror, fun e he => ?_⟩
  · cases ht : s.toEntity with
    | ok e => exact ⟨e, rfl⟩
    | error err => exact (valid_iff.mp hvalid err.index (herror err ht).1).elim
  · have hdrafted := (hok e he).1
    refine ⟨⟨hdrafted.count, hdrafted.groups, hdrafted.events⟩, resolve_succeeds_iff hdrafted,
      fun c hc => ?_⟩
    obtain ⟨before, name, after, heq, hbefore, hname, rfl⟩ := resolve_fails hdrafted hc
    exact ⟨before, name, after, sourcesOf name s.states, heq, hbefore, hname, rfl,
      sourcesOf_increasing name s.states, fun k => mem_sourcesOf⟩

/-- Nobody is called `lost`, and only the timer of the second state counts. -/
def danglingScript : EntityScript :=
  { scope := "dev", name := "Boss"
    behaviorControllers := [⟨"timing", none⟩]
    states := [
      { connections := ["camp", "lost"], entryCommands := some ["/say camp"] },
      { name := some "camp", timer := some 3.0, timerBranch := some "lost"
        connections := ["lost"] },
      { timerBranch := some "gone", connections := ["lost", "camp"] }] }

/-- The fourth state takes a name again, the fifth has no render controller. -/
def repeatedNameScript : EntityScript :=
  { danglingScript with states := danglingScript.states ++ [
      { name := some "camp" }, { animation := some "animation.boss.idle" }] }

theorem dangling_and_repeated_names :
    (danglingScript.Valid ∧ ∃ e, danglingScript.toEntity = .ok e ∧ danglingScript.Loaded e ∧
      (Entity.resolveBranches.apply e).2 =
        .error (.unresolvedBranch "lost" ["state_0", "state_1", "state_2"])) ∧
    ∃ err, repeatedNameScript.toEntity = .error err ∧ err.index = 3 ∧ repeatedNameScript.Faulty 3 ∧
      ∀ i < 3, ¬ repeatedNameScript.Faulty i := by
  have hvalid : danglingScript.Valid := by
    constructor <;> decide +kernel
  have houtcome : danglingScript.toEntity.toOption.map
      (fun e => (Entity.resolveBranches.apply e).2) =
      some (.error (.unresolvedBranch "lost" ["state_0", "state_1", "state_2"])) := by
    decide +kernel
  obtain ⟨haccepted, -, hloaded⟩ := script_acceptance danglingScript
  obtain ⟨e, he⟩ := haccepted.mpr hvalid
  rw [he] at houtcome
  have hrefused : repeatedNameScript.toEntity = .error ⟨3, "dev:boss",
      .duplicateBranchTarget "camp" "state_1" "state_3"⟩ := by rfl
  obtain ⟨hfaulty, hearlier⟩ := (script_acceptance repeatedNameScript).2.1 _ hrefused
  exact ⟨⟨hvalid, e, he, (hloaded e he).1, Option.some.inj houtcome⟩,
    _, hrefused, rfl, hfaulty, hearlier⟩

end EntityScript
end EntityPack
