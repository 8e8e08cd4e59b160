import EntityPack.Proofs.Assembly
import EntityPack.Proofs.Reference

/-!
# Runs of operations

The history of a run records each loop state that was accepted, in order. Seen from the
events, the groups and the registry, an operation does one of three things: it appends what
it was given, it places one loop state, or it resolves the branches. Facts about runs follow
by induction from what these three preserve.
-/
namespace EntityPack.Entity

structure Placed where
  state : LoopState
  group : Nat

def record (e : Entity) : Operation → List Placed
  | .addLoopState s =>
    match ((addLoopState s).apply e).2 with
    | .ok _ => [⟨s, e.behavior.groups.length⟩]
    | .error _ => []
  | _ => []

def history (e : Entity) : List Operation → List Placed
  | [] => []
  | op :: ops => record e op ++ history (after e op) ops

/-- The operation supplies no event under the id of a loop state, and leaves the behavior
file to the other operations. -/
def Operation.SparesStates : Operation → Prop
  | .editBehavior _ => False
  | .addEvent event => ∀ id : StateId, event.fullId ≠ id.label
  | _ => True

/-- Entities made by operations. Between them the behavior file may be put into any form. -/
inductive Reachable : Entity → Prop where
  | new (scope name : String) (o : Options) : Reachable (new scope name o)
  | step {e} (op : Operation) : Reachable e → Reachable (after e op)
  | edit {e : Entity} (b : Behavior) : Reachable e → Reachable { e with behavior := b }

structure Appends (e e' : Entity) : Prop where
  events : ∃ events, e'.behavior.events = e.behavior.events ++ events ∧
    ∀ ev ∈ events, ∀ id : StateId, ev.fullId ≠ id.label
  groups : ∃ groups, e'.behavior.groups = e.behavior.groups ++ groups
  branches : e'.branches = e.branches
  count : e'.stateCount = e.stateCount

inductive Progress (e : Entity) : Entity → List Placed → Prop where
  | appended {e'} : Appends e e' → Progress e e' []
  | placed {s} : Acceptable s e →
      Progress e (e.withLoopState s) [⟨s, e.behavior.groups.length⟩]
  | resolved {branches} : e.branches.resolved = .ok branches →
      Progress e (e.withResolved branches) []

variable {e e' : Entity} {s : LoopState} {branches : List ResolvedBranch}

theorem reachable_run (h : Reachable e) (ops : List Operation) : Reachable (run e ops) := by
  induction ops generalizing e with
  | nil => exact h
  | cons op ops ih => exact ih (h.step op)

theorem resolve_eq (h : e.branches.resolved = .ok branches) :
    resolveBranches.apply e = (e.withResolved branches, .ok ()) := by
  rw [resolveBranches_accepted h]
  cases branches with
  | nil => rw [withResolved_nil, ite_self]
  | cons b bs => rfl

theorem resolve_ok (h : resolveBranches.apply e = (e', .ok ())) :
    ∃ branches, e.branches.resolved = .ok branches ∧ e' = e.withResolved branches := by
  cases hr : e.branches.resolved with
  | ok branches =>
    rw [resolve_eq hr] at h
    exact ⟨branches, rfl, (congrArg Prod.fst h).symm⟩
  | error c =>
    rw [resolveBranches_refused hr] at h
    cases congrArg Prod.snd h

theorem apply_then_look {α β : Type} {a : Assembly α} {f : α → Assembly β}
    (hf : ∀ x e, ((f x).apply e).1 = e) (e : Entity) :
    ((a >>= f).apply e).1 = (a.apply e).1 := by
  rcases ha : a.apply e with ⟨e', c | x⟩
  · rw [Assembly.apply_bind_error ha]
  · rw [Assembly.apply_bind_ok ha, hf]

theorem addLoopState_ok {id : StateId} (h : ((addLoopState s).apply e).2 = .ok id) :
    Acceptable s e ∧ id = e.nextState := by
  cases hc : checkLoopState s e with
  | ok u =>
    have ha := checkLoopState_ok.mp hc
    rw [addLoopState_accepted ha] at h
    exact ⟨ha, (Except.ok.inj h).symm⟩
  | error c =>
    rw [addLoopState_refused hc] at h
    cases h

theorem addLoopState_error {c : BuildError} (h : ((addLoopState s).apply e).2 = .error c) :
    checkLoopState s e = .error c := by
  cases hc : checkLoopState s e with
  | ok u =>
    rw [addLoopState_accepted (checkLoopState_ok.mp hc)] at h
    cases h
  | error c' =>
    rw [addLoopState_refused hc] at h
    rw [Except.error.inj h]

theorem after_addLoopState_eq (s : LoopState) (e : Entity) :
    after e (.addLoopState s) = ((addLoopState s).apply e).1 :=
  apply_then_look (fun _ _ => rfl) e

theorem after_accepted (h : Acceptable s e) : after e (.addLoopState s) = e.withLoopState s := by
  rw [after_addLoopState_eq, addLoopState_accepted h]

theorem after_refused {c : BuildError} (h : checkLoopState s e = .error c) :
    after e (.addLoopState s) = e := by
  rw [after_addLoopState_eq, addLoopState_refused h]

theorem after_addLoopState (s : LoopState) (e : Entity) :
    (Acceptable s e ∧ after e (.addLoopState s) = e.withLoopState s ∧
      record e (.addLoopState s) = [⟨s, e.behavior.groups.length⟩]) ∨
    (after e (.addLoopState s) = e ∧ record e (.addLoopState s) = []) := by
  cases hc : checkLoopState s e with
  | ok u =>
    have ha := checkLoopState_ok.mp hc
    exact Or.inl ⟨ha, after_accepted ha, by simp only [record, addLoopState_accepted ha]⟩
  | error c => exact Or.inr ⟨after_refused hc, by simp only [record, addLoopState_refused hc]⟩

theorem after_addLoopState_of {P : Entity → Prop} (h : P e)
    (haccepted : Acceptable s e → P (e.withLoopState s)) : P (after e (.addLoopState s)) := by
  rcases after_addLoopState s e with ⟨ha, heq, -⟩ | ⟨heq, -⟩
  · rw [heq]
    exact haccepted ha
  · rwa [heq]

theorem after_resolveBranches_eq (e : Entity) :
    after e .resolveBranches = (resolveBranches.apply e).1 :=
  apply_then_look (fun _ _ => rfl) e

theorem after_resolved (h : e.branches.resolved = .ok branches) :
    after e .resolveBranches = e.withResolved branches := by
  rw [after_resolveBranches_eq, resolve_eq h]

theorem after_unresolved {c : BuildError} (h : e.branches.resolved = .error c) :
    after e .resolveBranches = e := by
  rw [after_resolveBranches_eq, resolveBranches_refused h]

theorem after_resolveBranches (e : Entity) :
    (∃ branches, e.branches.resolved = .ok branches ∧
      after e .resolveBranches = e.withResolved branches) ∨ after e .resolveBranches = e := by
  cases hr : e.branches.resolved with
  | ok branches => exact Or.inl ⟨branches, rfl, after_resolved hr⟩
  | error c => exact Or.inr (after_unresolved hr)

theorem after_resolveBranches_of {P : Entity → Prop} (h : P e)
    (hresolved : ∀ branches, e.branches.resolved = .ok branches → P (e.withResolved branches)) :
    P (after e .resolveBranches) := by
  rcases after_resolveBranches e with ⟨branches, hres, heq⟩ | heq
  · rw [heq]
    exact hresolved branches hres
  · rwa [heq]

/-- A build that fails after the branches are resolved leaves them resolved. -/
theorem after_build (e : Entity) : after e .build = after e .resolveBranches := by
  have hbuild : after e .build = (build.apply e).1 := apply_then_look (fun _ _ => rfl) e
  rw [hbuild, after_resolveBranches_eq]
  exact apply_then_look (fun _ _ => rfl) e

theorem build_resolved (h : resolveBranches.apply e = (e', .ok ())) :
    build.apply e = (e', documents e') :=
  (Assembly.apply_bind_ok h).trans (Assembly.apply_check documents e')

theorem build_ok {documents : Documents} (h : build.apply e = (e', .ok documents)) :
    resolveBranches.apply e = (e', .ok ()) ∧ Entity.documents e' = .ok documents := by
  rcases hr : resolveBranches.apply e with ⟨e₁, c | u⟩
  · have hbuild : build.apply e = (e₁, .error c) := Assembly.apply_bind_error hr
    rw [hbuild] at h
    cases congrArg Prod.snd h
  · rw [build_resolved hr] at h
    obtain ⟨rfl, hdocuments⟩ := Prod.mk.inj h
    exact ⟨rfl, hdocuments⟩

theorem after_addControllerState (kind : ControllerKind) (index : Nat)
    (state : Controller.State) (e : Entity) :
    after e (.addControllerState kind index state) =
      e.setControllers kind ((e.controllers kind).modify index (·.addStates [state] |>.1)) := by
  have hafter : after e (.addControllerState kind index state) =
      ((addControllerState kind index state).apply e).1 :=
    apply_then_look (fun _ _ => rfl) e
  rw [hafter]
  unfold addControllerState
  cases hd : (e.controllers kind)[index]? with
  | none =>
    rw [Assembly.apply_onController_none hd,
      List.modify_eq_self (List.getElem?_eq_none_iff.mp hd), setControllers_self]
  | some d =>
    rw [Assembly.apply_onController hd rfl, List.modify_eq_set, hd]
    rfl

theorem appends_of_unchanged (he : e'.behavior.events = e.behavior.events)
    (hg : e'.behavior.groups = e.behavior.groups) (hb : e'.branches = e.branches)
    (hc : e'.stateCount = e.stateCount) : Appends e e' where
  events := ⟨[], by simp [he]⟩
  groups := ⟨[], by simp [hg]⟩
  branches := hb
  count := hc

theorem appends_setControllers (kind : ControllerKind) (cs : List Controller) (e : Entity) :
    Appends e (e.setControllers kind cs) := by
  cases kind <;> exact appends_of_unchanged rfl rfl rfl rfl

theorem appends_addController (kind : ControllerKind) (c : Controller) (e : Entity) :
    Appends e (e.addController kind c) := by
  cases kind <;> exact appends_of_unchanged rfl rfl rfl rfl

theorem appends_setId (id : String) (e : Entity) : Appends e (setId id e) := by
  simp only [setId]
  split <;> exact appends_of_unchanged rfl rfl rfl rfl

/-- Everything an operation can do to events, groups and registry. -/
theorem after_progress (e : Entity) {op : Operation} (h : op.SparesStates) :
    Progress e (after e op) (record e op) := by
  have same : Progress e e [] := .appended (appends_of_unchanged rfl rfl rfl rfl)
  have resolution : Progress e (after e .resolveBranches) [] :=
    after_resolveBranches_of (P := (Progress e · [])) same fun _ hres => .resolved hres
  cases op with
  | setId id => exact .appended (appends_setId id e)
  | addGroup group =>
    exact .appended ⟨⟨[], (List.append_nil _).symm, by simp⟩, ⟨[group], rfl⟩, rfl, rfl⟩
  | addEvent event =>
    refine .appended ⟨⟨[event], rfl, ?_⟩, ⟨[], (List.append_nil _).symm⟩, rfl, rfl⟩
    intro ev hev
    rw [List.mem_singleton.mp hev]
    exact h
  | createController kind suffix initial => exact .appended (appends_addController kind _ e)
  | addController kind controller => exact .appended (appends_addController kind controller e)
  | addControllerState kind index state =>
    rw [after_addControllerState]
    exact .appended (appends_setControllers kind _ e)
  | addLoopState s =>
    rcases after_addLoopState s e with ⟨ha, heq, hrec⟩ | ⟨heq, hrec⟩
    · rw [heq, hrec]
      exact .placed ha
    · rw [heq, hrec]
      exact same
  | resolveBranches => exact resolution
  | build =>
    rw [after_build]
    exact resolution
  | editBehavior edit => exact h.elim
  | _ => exact .appended (appends_of_unchanged rfl rfl rfl rfl)

theorem run_append (e : Entity) (ops ops' : List Operation) :
    run e (ops ++ ops') = run (run e ops) ops' :=
  List.foldl_append

theorem history_append (e : Entity) (ops ops' : List Operation) :
    history e (ops ++ ops') = history e ops ++ history (run e ops) ops' := by
  induction ops generalizing e with
  | nil => rfl
  | cons op ops ih =>
    rw [List.cons_append, history, history, ih, List.append_assoc]
    rfl

theorem run_snoc (e : Entity) (ops : List Operation) (op : Operation) :
    run e (ops ++ [op]) = after (run e ops) op :=
  run_append e ops [op]

theorem history_snoc (e : Entity) (ops : List Operation) (op : Operation) :
    history e (ops ++ [op]) = history e ops ++ record (run e ops) op := by
  rw [history_append, history, history, List.append_nil]

theorem getElem?_snoc {h : List Placed} {p q : Placed} {i : Nat} (hq : (h ++ [p])[i]? = some q) :
    h[i]? = some q ∨ (i = h.length ∧ q = p) := by
  by_cases hi : i < h.length
  · rw [List.getElem?_append_left hi] at hq
    exact Or.inl hq
  · have hlt := (List.getElem?_eq_some_iff.mp hq).1
    rw [List.length_append, List.length_singleton] at hlt
    obtain rfl : i = h.length := by omega
    rw [List.getElem?_concat_length] at hq
    exact Or.inr ⟨rfl, (Option.some.inj hq).symm⟩

/-- What every operation of a kind preserves holds after every run of such operations. -/
theorem history_induction {P : List Placed → Entity → Prop} {Q : Operation → Prop}
    (hstep : ∀ {h e op}, Q op → P h e → P (h ++ record e op) (after e op)) {h : List Placed}
    (h0 : P h e) {ops : List Operation} (hops : ∀ op ∈ ops, Q op) :
    P (h ++ history e ops) (run e ops) := by
  -- The history so far is general: each operation moves its record from the rest to it.
  induction ops generalizing h e with
  | nil => simpa [history, run] using h0
  | cons op ops ih =>
    have hop := hstep (hops op (by simp)) h0
    have hrest := ih hop fun op hm => hops op (by simp [hm])
    rw [List.append_assoc] at hrest
    exact hrest

theorem run_induction {P : List Placed → Entity → Prop}
    (hstep : ∀ {h e e' added}, P h e → Progress e e' added → P (h ++ added) e') {h : List Placed}
    (h0 : P h e) {ops : List Operation} (hops : ∀ op ∈ ops, op.SparesStates) :
    P (h ++ history e ops) (run e ops) :=
  history_induction (fun hop hP => hstep hP (after_progress _ hop)) h0 hops

theorem leadsTo_subset_mentions (s : LoopState) : s.leadsTo ⊆ s.mentions := by
  intro name hm
  unfold LoopState.leadsTo at hm
  unfold LoopState.mentions
  split at hm <;> simp only [List.mem_append, List.not_mem_nil, or_false] at hm ⊢ <;> tauto

theorem sound_withLoopState (h : e.branches.Sound) (ha : Acceptable s e) :
    (e.withLoopState s).branches.Sound := by
  have hname : ∀ name, s.name = some name → Branch.isReserved name = false := by
    intro name hn
    exact ha.unreserved name (by simp [LoopState.mentions, hn])
  exact Registry.sound_addSources (Registry.sound_bind h hname) _
    fun name hm => ha.unreserved name (leadsTo_subset_mentions s hm)

/-- Only an accepted loop state changes the registry, the count and the history. -/
theorem after_record (e : Entity) (op : Operation) :
    ((after e op).branches = e.branches ∧ (after e op).stateCount = e.stateCount ∧
      record e op = []) ∨
    ∃ s, op = .addLoopState s ∧ Acceptable s e ∧ after e op = e.withLoopState s ∧
      record e op = [⟨s, e.behavior.groups.length⟩] := by
  have resolution : (after e .resolveBranches).branches = e.branches ∧
      (after e .resolveBranches).stateCount = e.stateCount :=
    after_resolveBranches_of (P := fun e' => e'.branches = e.branches ∧
      e'.stateCount = e.stateCount) ⟨rfl, rfl⟩ fun _ _ => ⟨rfl, rfl⟩
  have kept : ∀ {e' : Entity}, Appends e e' →
      e'.branches = e.branches ∧ e'.stateCount = e.stateCount ∧ ([] : List Placed) = [] :=
    fun ha => ⟨ha.branches, ha.count, rfl⟩
  cases op with
  | setId id => exact Or.inl (kept (appends_setId id e))
  | createController kind suffix initial => exact Or.inl (kept (appends_addController kind _ e))
  | addController kind controller => exact Or.inl (kept (appends_addController kind controller e))
  | addControllerState kind index state =>
    rw [after_addControllerState]
    exact Or.inl (kept (appends_setControllers kind _ e))
  | addLoopState s =>
    rcases after_addLoopState s e with ⟨ha, heq, hrec⟩ | ⟨heq, hrec⟩
    · exact Or.inr ⟨s, rfl, ha, heq, hrec⟩
    · exact Or.inl ⟨by rw [heq], by rw [heq], hrec⟩
  | resolveBranches => exact Or.inl ⟨resolution.1, resolution.2, rfl⟩
  | build =>
    rw [after_build]
    exact Or.inl ⟨resolution.1, resolution.2, rfl⟩
  | _ => exact Or.inl ⟨rfl, rfl, rfl⟩

theorem branches_after (e : Entity) (op : Operation) :
    (after e op).branches = e.branches ∨
      ∃ s, op = .addLoopState s ∧ Acceptable s e ∧ after e op = e.withLoopState s := by
  rcases after_record e op with ⟨hb, -, -⟩ | ⟨s, hop, ha, heq, -⟩
  · exact Or.inl hb
  · exact Or.inr ⟨s, hop, ha, heq⟩

theorem count_after (e : Entity) (op : Operation) :
    (after e op).stateCount = e.stateCount + (record e op).length := by
  rcases after_record e op with ⟨-, hc, hrec⟩ | ⟨s, -, -, heq, hrec⟩
  · rw [hc, hrec]
    rfl
  · rw [heq, hrec]
    rfl

theorem count_run (scope name : String) (o : Options) (ops : List Operation) :
    (run (new scope name o) ops).stateCount = (history (new scope name o) ops).length :=
  history_induction (P := fun h e => e.stateCount = h.length) (Q := fun _ => True) (h := [])
    (fun _ hc => by rw [count_after, hc, List.length_append]) rfl fun _ _ => trivial

theorem sound_after (h : e.branches.Sound) (op : Operation) : (after e op).branches.Sound := by
  rcases branches_after e op with heq | ⟨s, -, ha, heq⟩
  · exact heq ▸ h
  · exact heq ▸ sound_withLoopState h ha

theorem sound_reachable (h : Reachable e) : e.branches.Sound := by
  induction h with
  | new scope name o => exact Registry.sound_nil
  | step op _ ih => exact sound_after ih op
  | edit b _ ih => exact ih

theorem extends_after (e : Entity) (op : Operation) :
    e.branches.Extends (after e op).branches := by
  rcases branches_after e op with heq | ⟨s, -, ha, heq⟩
  · exact heq ▸ .refl _
  · rw [heq]
    exact Registry.extends_addSources
      (Registry.extends_bind fun name hn => Registry.checkTarget_ok.mp (ha.target name hn)) _ _

theorem extends_run (e : Entity) (ops : List Operation) :
    e.branches.Extends (run e ops).branches := by
  induction ops generalizing e with
  | nil => exact .refl _
  | cons op ops ih => exact (extends_after e op).trans (ih (after e op))

/-- Only the mentions of loop states become names of branches. -/
theorem names_after {P : String → Prop} (h : ∀ b ∈ e.branches, P b.name) {op : Operation}
    (hop : ∀ s, op = .addLoopState s → ∀ name ∈ s.mentions, P name) :
    ∀ b ∈ (after e op).branches, P b.name := by
  rcases branches_after e op with heq | ⟨s, rfl, -, heq⟩
  · exact heq ▸ h
  · rw [heq]
    refine Registry.names_addSources (Registry.names_bind h fun name hn => ?_) fun name hm => ?_
    · exact hop s rfl name (by simp [LoopState.mentions, hn])
    · exact hop s rfl name (leadsTo_subset_mentions s hm)

end EntityPack.Entity
