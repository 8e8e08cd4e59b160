import EntityPack.Proofs.Spokes
import Mathlib.Data.List.Induction

/-!
# Hub and spokes

The loop states that are wired into a controller stand around one hub. The hub leads to each
of them once, in the order in which they were accepted, behind the transitions that it had
before, and each of them leads back to the hub only.
-/
namespace EntityPack

theorem StateId.activeCondition_injective {j k : StateId}
    (h : j.activeCondition = k.activeCondition) : j = k := by
  have hl := congrArg String.toList h
  unfold activeCondition at hl
  rw [String.toList_append, String.toList_append] at hl
  have hnumber : toString j.index = toString k.index :=
    String.toList_inj.mp (List.append_cancel_left hl)
  apply label_injective
  unfold label
  rw [hnumber]

def LoopState.exitCondition (kind : ControllerKind) (id : StateId) (s : LoopState) : String :=
  match kind with
  | .behavior => id.inactiveCondition
  | .render => if s.animationEndsWithState then id.inactiveCondition else finishedCondition

theorem LoopState.transitions_spoke (kind : ControllerKind) (id : StateId) (s : LoopState) :
    (s.spoke kind id).transitions = [(hubState, s.exitCondition kind id)] := by
  cases kind <;> rfl

namespace Entity

def wiredInto (kind : ControllerKind) (i : Nat) (h : List Placed) : List StateId :=
  StateId.positions (fun p => p.state.wires kind i) h

def hubTransitions (states : List Controller.State) : List (String × String) :=
  match states.find? (·.id == hubState) with
  | some hub => hub.transitions
  | none => []

/-- The operation does not resolve branches, and a controller that it hands over has distinct
states. -/
def Operation.Orderly : Operation → Prop
  | .resolveBranches | .build => False
  | .addController _ c => (c.states.map Controller.State.id).Nodup
  | _ => True

/-- What a controller holds after the loop states of `h` were wired into it and the states of
`given` were handed to it. -/
structure Spoked (kind : ControllerKind) (i : Nat) (h : List Placed)
    (given : List Controller.State) (c : Controller) : Prop where
  distinct : (c.states.map Controller.State.id).Nodup
  bare : wiredInto kind i h = [] → c.states = given
  initial : wiredInto kind i h ≠ [] → c.initial = hubState
  hub : wiredInto kind i h ≠ [] → ∃ hub, c.state? hubState = some hub ∧
    hub.transitions = hubTransitions given ++ (wiredInto kind i h).map StateId.entrance
  spokes : ∀ (k : StateId) p, h[k.index]? = some p → p.state.wires kind i = true →
    c.state? k.label = some (p.state.spoke kind k)

def SpokedAt (kind : ControllerKind) (i : Nat) (h : List Placed)
    (given : List Controller.State) : Option Controller → Prop
  | some c => Spoked kind i h given c
  | none => wiredInto kind i h = [] ∧ given = []

variable {kind : ControllerKind} {i : Nat} {h added : List Placed}
  {given states : List Controller.State} {c c' : Controller} {e : Entity} {op : Operation}

theorem mem_wiredInto {k : StateId} : k ∈ wiredInto kind i h ↔
    ∃ p, h[k.index]? = some p ∧ p.state.wires kind i = true :=
  StateId.mem_positions

theorem wiredInto_append (hadded : ∀ p ∈ added, p.state.wires kind i = false) :
    wiredInto kind i (h ++ added) = wiredInto kind i h :=
  StateId.positions_append_of_none hadded

theorem wiredInto_snoc {p : Placed} (hp : p.state.wires kind i = true) :
    wiredInto kind i (h ++ [p]) = wiredInto kind i h ++ [⟨h.length⟩] := by
  unfold wiredInto
  rw [StateId.positions_snoc, if_pos hp]

theorem getElem?_of_wired {k : Nat} {p : Placed} (hp : (h ++ added)[k]? = some p)
    (hw : p.state.wires kind i = true) (hadded : ∀ p ∈ added, p.state.wires kind i = false) :
    h[k]? = some p := by
  by_cases hk : k < h.length
  · rw [← List.getElem?_append_left hk]
    exact hp
  · rw [List.getElem?_append_right (by omega)] at hp
    rw [hadded p (List.mem_of_getElem? hp)] at hw
    cases hw

theorem Spoked.unwired (hs : Spoked kind i h given c)
    (hadded : ∀ p ∈ added, p.state.wires kind i = false) : Spoked kind i (h ++ added) given c where
  distinct := hs.distinct
  bare hn := hs.bare (wiredInto_append hadded ▸ hn)
  initial hn := hs.initial (wiredInto_append hadded ▸ hn)
  hub hn := by
    rw [wiredInto_append hadded] at hn ⊢
    exact hs.hub hn
  spokes k p hp hw := hs.spokes k p (getElem?_of_wired hp hw hadded) hw

theorem Spoked.congr (hs : Spoked kind i h given c) (hi : c'.initial = c.initial)
    (hstates : c'.states = c.states) : Spoked kind i h given c' := by
  have hstate : ∀ id, c'.state? id = c.state? id := by
    intro id
    rw [Controller.state?, Controller.state?, hstates]
  exact ⟨hstates ▸ hs.distinct, fun hn => hstates.trans (hs.bare hn),
    fun hn => hi.trans (hs.initial hn), fun hn => hstate hubState ▸ hs.hub hn,
    fun k p hp hw => (hstate k.label).trans (hs.spokes k p hp hw)⟩

theorem spoked_created (hn : wiredInto kind i h = [])
    (hd : (c.states.map Controller.State.id).Nodup) : Spoked kind i h c.states c where
  distinct := hd
  bare _ := rfl
  initial hne := (hne hn).elim
  hub hne := (hne hn).elim
  spokes k p hp hw := by
    have hm : k ∈ wiredInto kind i h := mem_wiredInto.mpr ⟨p, hp, hw⟩
    rw [hn] at hm
    cases hm

theorem Spoked.extended (hs : Spoked kind i h given c) {s : Controller.State}
    (hfree : c.hasState s.id = false) :
    Spoked kind i h (given ++ [s]) { c with states := c.states ++ [s] } where
  distinct := Controller.ids_snoc_nodup hs.distinct hfree
  bare hn := by rw [hs.bare hn]
  initial := hs.initial
  hub hn := by
    -- The new state is not the hub, which is there already.
    obtain ⟨hub, hhub, htransitions⟩ := hs.hub hn
    refine ⟨hub, Controller.state?_snoc_of_some hhub s, ?_⟩
    have hne : s.id ≠ hubState := by
      rintro heq
      rw [heq, Controller.hasState_false_iff, hhub] at hfree
      cases hfree
    have hgiven : hubTransitions (given ++ [s]) = hubTransitions given := by
      unfold hubTransitions
      rw [List.find?_append, find?_key_cons, if_neg hne, List.find?_nil, Option.or_none]
    rw [htransitions, hgiven]
  spokes k p hp hw := Controller.state?_snoc_of_some (hs.spokes k p hp hw) s

theorem Spoked.transitions_hub (hs : Spoked kind i h given c) :
    c.hub.transitions = hubTransitions given ++ (wiredInto kind i h).map StateId.entrance := by
  unfold Controller.hub
  by_cases hn : wiredInto kind i h = []
  · rw [hn, List.map_nil, List.append_nil, ← hs.bare hn]
    unfold hubTransitions Controller.state?
    cases c.states.find? (·.id == hubState) <;> rfl
  · obtain ⟨hub, hhub, htransitions⟩ := hs.hub hn
    rw [hhub, Option.getD_some, htransitions]

theorem Spoked.wired (hs : Spoked kind i h given c) {s : LoopState} {k : StateId}
    (hk : k.index = h.length) (hfree : c.hasState k.label = false)
    (hw : s.wires kind i = true) (group : Nat) :
    Spoked kind i (h ++ [⟨s, group⟩]) given (c.wired (s.spoke kind k) k) := by
  have hstate : ∀ id, (c.wired (s.spoke kind k) k).state? id = _ :=
    fun id => Controller.state?_wired (s.id_spoke kind k) hfree
  have hsnoc : wiredInto kind i (h ++ [⟨s, group⟩]) = wiredInto kind i h ++ [k] := by
    rw [wiredInto_snoc hw, ← hk]
  have hne : wiredInto kind i (h ++ [⟨s, group⟩]) ≠ [] := by
    rw [hsnoc]
    exact List.append_ne_nil_of_right_ne_nil _ (List.cons_ne_nil _ _)
  refine ⟨Controller.ids_wired_nodup hs.distinct (s.id_spoke kind k) hfree,
    fun hnil => (hne hnil).elim, fun _ => Controller.initial_wired _ k c, fun _ => ?_,
    fun j p hp hwp => ?_⟩
  · refine ⟨_, (hstate hubState).trans (if_pos rfl), ?_⟩
    rw [Controller.State.addTransitions, hs.transitions_hub, hsnoc, List.map_append,
      List.append_assoc]
    rfl
  · rw [hstate, if_neg j.label_ne_hub]
    rcases getElem?_snoc hp with hp | ⟨hj, rfl⟩
    · have hne : j.label ≠ k.label := by
        intro heq
        have hlt := (List.getElem?_eq_some_iff.mp hp).1
        rw [StateId.label_injective heq, hk] at hlt
        exact Nat.lt_irrefl _ hlt
      rw [if_neg hne]
      exact hs.spokes j p hp hwp
    · rw [if_pos (congrArg StateId.label (congrArg StateId.mk (hj.trans hk.symm)))]
      obtain rfl : j = k := congrArg StateId.mk (hj.trans hk.symm)
      rfl

theorem SpokedAt.change {c? : Option Controller}
    (hs : SpokedAt kind i h given (e.controllers kind)[i]?)
    (hc : Change e kind i op added states c?) (hop : op.Orderly)
    (hcount : e.stateCount = h.length) :
    SpokedAt kind i (h ++ added) (given ++ states) c? := by
  cases hc with
  | vacant hnone hadded =>
    rw [hnone] at hs
    exact ⟨(wiredInto_append hadded).trans hs.1, by rw [hs.2, List.append_nil]⟩
  | kept hsome hadded hi hstates =>
    rw [hsome] at hs
    rw [List.append_nil]
    exact (hs.unwired hadded).congr hi hstates
  | created hnone hor =>
    rw [hnone] at hs
    rw [List.append_nil, hs.2, List.nil_append]
    refine spoked_created hs.1 ?_
    rcases hor with hnil | rfl
    · rw [hnil]
      exact List.nodup_nil
    · exact hop
  | extended hsome hfree =>
    rw [hsome] at hs
    rw [List.append_nil]
    exact hs.extended hfree
  | wired hsome hfree hw =>
    rw [hsome] at hs
    rw [List.append_nil]
    exact hs.wired hcount hfree hw _
  | resolved _ _ hresolves =>
    cases op <;> first | exact hop.elim | exact hresolves.elim

theorem spokedAt_run (scope name : String) (o : Options) {ops : List Operation}
    (hops : ∀ op ∈ ops, op.Orderly) (kind : ControllerKind) (i : Nat) :
    SpokedAt kind i (history (new scope name o) ops) (givenTo (new scope name o) kind i ops)
      ((run (new scope name o) ops).controllers kind)[i]? := by
  induction ops using List.reverseRecOn with
  | nil =>
    cases kind <;> exact ⟨rfl, rfl⟩
  | append_singleton ops op ih =>
    have hs := ih fun op hm => hops op (List.mem_append_left _ hm)
    have hc := change_after (run (new scope name o) ops) op kind i
    rw [history_snoc, givenTo_append, givenTo, givenTo, List.append_nil, run_snoc]
    exact hs.change hc (hops op (by simp)) (count_run scope name o ops)

/-- The shape of a controller into which the loop states of `h` were wired, after the states of
`given` were handed to it. -/
structure HubAndSpokes (kind : ControllerKind) (i : Nat) (h : List Placed)
    (given : List Controller.State) (c : Controller) : Prop where
  initial : c.initial = hubState
  hub : ∃ hub, c.states.filter (·.id == hubState) = [hub] ∧
    hub.transitions = hubTransitions given ++ (wiredInto kind i h).map StateId.entrance
  spokes : ∀ n ∈ wiredInto kind i h, ∃ p spoke, h[n.index]? = some p ∧
    c.states.filter (·.id == n.label) = [spoke] ∧ spoke = p.state.spoke kind n ∧
    spoke.transitions = [(hubState, p.state.exitCondition kind n)]

theorem Spoked.shape (hs : Spoked kind i h given c) (hn : wiredInto kind i h ≠ []) :
    HubAndSpokes kind i h given c := by
  have hone : ∀ {id s}, c.state? id = some s → c.states.filter (·.id == id) = [s] := by
    intro id s hstate
    have hm : id ∈ c.states.map Controller.State.id :=
      Controller.hasState_iff.mp (by rw [Controller.hasState, hstate, Option.isSome_some])
    exact filter_key_eq_singleton (List.count_eq_one_of_mem hs.distinct hm) hstate
  refine ⟨hs.initial hn, ?_, fun n hm => ?_⟩
  · obtain ⟨hub, hhub, htransitions⟩ := hs.hub hn
    exact ⟨hub, hone hhub, htransitions⟩
  · obtain ⟨p, hp, hw⟩ := mem_wiredInto.mp hm
    exact ⟨p, _, hp, hone (hs.spokes n p hp hw), rfl, p.state.transitions_spoke kind n⟩

/-- At most one entrance has the guard of a state, and it leads to that state. -/
theorem filter_entrances {ns : List StateId} (hns : ns.Nodup) (v : StateId) :
    (ns.map StateId.entrance).filter (·.2 == v.activeCondition) =
      if v ∈ ns then [(v.label, v.activeCondition)] else [] := by
  have hguard : ∀ n : StateId, (n.entrance.2 == v.activeCondition) = (n == v) := by
    intro n
    rw [Bool.eq_iff_iff, beq_iff_eq, beq_iff_eq]
    exact ⟨StateId.activeCondition_injective, congrArg StateId.activeCondition⟩
  rw [List.filter_map, Function.comp_def]
  simp only [hguard]
  rw [List.filter_beq, hns.count]
  split <;> rfl

/-- In every controller with wired loop states the hub is the initial state and occurs once.
Behind what was there before, it leads to each wired state once and in order, and each of them
occurs once and leads back. Nothing was wired into any other controller, and a loop state
leaves the controllers alone that it is not wired into. -/
theorem hub_and_spokes (scope name : String) (o : Options) {ops : List Operation}
    (hops : ∀ op ∈ ops, op.Orderly) (kind : ControllerKind) (i : Nat) :
    (wiredInto kind i (history (new scope name o) ops)).Pairwise (fun j k => j.index < k.index) ∧
    (∀ n, n ∈ wiredInto kind i (history (new scope name o) ops) ↔
      ∃ p, (history (new scope name o) ops)[n.index]? = some p ∧
        p.state.wires kind i = true) ∧
    (wiredInto kind i (history (new scope name o) ops) ≠ [] →
      ∃ c, ((run (new scope name o) ops).controllers kind)[i]? = some c ∧
        HubAndSpokes kind i (history (new scope name o) ops)
          (givenTo (new scope name o) kind i ops) c) ∧
    (∀ v : StateId, ((wiredInto kind i (history (new scope name o) ops)).map
        StateId.entrance).filter (·.2 == v.activeCondition) =
      if v ∈ wiredInto kind i (history (new scope name o) ops)
        then [(v.label, v.activeCondition)] else []) ∧
    (wiredInto kind i (history (new scope name o) ops) = [] →
      ∀ c, ((run (new scope name o) ops).controllers kind)[i]? = some c →
        c.states = givenTo (new scope name o) kind i ops) ∧
    ∀ s, s.wires kind i = false →
      ((run (new scope name o) (ops ++ [.addLoopState s])).controllers kind)[i]? =
        ((run (new scope name o) ops).controllers kind)[i]? := by
  have hs := spokedAt_run scope name o hops kind i
  have hincreasing : (wiredInto kind i (history (new scope name o) ops)).Pairwise
      fun j k => j.index < k.index := StateId.positions_increasing _ _
  refine ⟨hincreasing, fun n => mem_wiredInto, fun hn => ?_, filter_entrances ?_,
    fun hn c hc => ?_, fun s hw => ?_⟩
  · cases hc : ((run (new scope name o) ops).controllers kind)[i]? with
    | none =>
      rw [hc] at hs
      exact (hn hs.1).elim
    | some c =>
      rw [hc] at hs
      exact ⟨c, rfl, hs.shape hn⟩
  · refine hincreasing.imp ?_
    rintro j _ hlt rfl
    exact Nat.lt_irrefl _ hlt
  · rw [hc] at hs
    exact hs.bare hn
  · rw [run_snoc]
    rcases after_addLoopState s (run (new scope name o) ops) with ⟨-, heq, -⟩ | ⟨heq, -⟩
    · rw [heq, controllers_withLoopState, hw]
      rfl
    · rw [heq]

/-- The caller brings a hub of its own. A second one is refused, and so is the third loop state,
whose controller does not exist. -/
def ownHubRun : List Operation := [
  .addController .behavior { id := "controller.animation.boss_main", initial := "idle"
                             states := [{ id := "idle" },
                               { id := "init", transitions := [("idle", "query.is_idle")] }] },
  .createController .render "anim" none,
  .addLoopState { entryCommands := some ["/say rise"] },
  .addLoopState { animation := some "animation.boss.idle", animationEndsWithState := false },
  .addControllerState .behavior 0 { id := "init" },
  .addControllerState .behavior 0 { id := "pause" },
  .addLoopState { exitCommands := some ["/say lost"], behaviorController := 1 },
  .addLoopState { exitCommands := some ["/say fall"], animation := some "animation.boss.fall" }]

theorem ownHubRun_orderly : ∀ op ∈ ownHubRun, op.Orderly := by
  simp [ownHubRun, Operation.Orderly]

theorem own_hub_is_extended : (∀ op ∈ ownHubRun, op.Orderly) ∧
    (∃ c hub, ((run (new "dev" "Boss" {}) ownHubRun).controllers .behavior)[0]? = some c ∧
      c.initial = "init" ∧ c.states.filter (·.id == "init") = [hub] ∧
      hub.transitions = [("idle", "query.is_idle"), ("state_0", "query.skin_id==0"),
        ("state_2", "query.skin_id==2")]) ∧
    ∃ c spoke, ((run (new "dev" "Boss" {}) ownHubRun).controllers .render)[0]? = some c ∧
      c.states.filter (·.id == "state_1") = [spoke] ∧
      spoke.transitions = [("init", "query.all_animations_finished")] := by
  have hbehavior :
      wiredInto .behavior 0 (history (new "dev" "Boss" {}) ownHubRun) = [⟨0⟩, ⟨2⟩] := by
    decide +kernel
  have hrender : wiredInto .render 0 (history (new "dev" "Boss" {}) ownHubRun) = [⟨1⟩, ⟨2⟩] := by
    decide +kernel
  have hgiven : hubTransitions (givenTo (new "dev" "Boss" {}) .behavior 0 ownHubRun) =
      [("idle", "query.is_idle")] := by decide +kernel
  refine ⟨ownHubRun_orderly, ?_, ?_⟩
  · obtain ⟨-, -, hshape, -⟩ := hub_and_spokes "dev" "Boss" {} ownHubRun_orderly .behavior 0
    obtain ⟨c, hc, hi, ⟨hub, hhub, htransitions⟩, -⟩ := hshape (by rw [hbehavior]; decide)
    refine ⟨c, hub, hc, hi, hhub, ?_⟩
    rw [htransitions, hgiven, hbehavior]
    decide +kernel
  · obtain ⟨-, -, hshape, -⟩ := hub_and_spokes "dev" "Boss" {} ownHubRun_orderly .render 0
    obtain ⟨c, hc, -, -, hspokes⟩ := hshape (by rw [hrender]; decide)
    obtain ⟨p, spoke, hp, hspoke, -, htransitions⟩ := hspokes ⟨1⟩ (by rw [hrender]; decide)
    refine ⟨c, spoke, hc, hspoke, ?_⟩
    have hends : ((history (new "dev" "Boss" {}) ownHubRun)[1]?.map
        fun p => p.state.animationEndsWithState) = some false := by decide +kernel
    rw [hp] at hends
    have hruns : p.state.animationEndsWithState = false := Option.some.inj hends
    simp only [htransitions, LoopState.exitCondition, hruns]
    rfl

end Entity
end EntityPack
