import EntityPack.Proofs.Hub
import EntityPack.Proofs.Timer
import EntityPack.Proofs.Wiring

/-!
# References between generated parts

What the loop states generate refers to what they generate. Once the branches are resolved,
every timer fires the event of a state, every event of a state adds and removes groups of
states, and every transition between hub and spokes ends at a state of its controller.
-/
namespace EntityPack

def StateId.links (n : StateId) : List (String × String) :=
  [(hubState, n.label), (n.label, hubState)]

theorem StateId.links_symm {n : StateId} {l : String × String} (h : l ∈ n.links) :
    (l.2, l.1) ∈ n.links := by
  rcases List.mem_cons.mp h with rfl | h
  · simp [links]
  · rw [List.mem_singleton.mp h]
    simp [links]

namespace Controller

def LeadsTo (c : Controller) (source target : String) : Prop :=
  ∃ s, c.state? source = some s ∧ target ∈ s.transitions.map Prod.fst

variable {c c' : Controller} {s spoke source : State} {a b : String} {k n : StateId}
  {t : String × String}

theorem LeadsTo.hasState (h : c.LeadsTo a b) : c.hasState a = true := by
  obtain ⟨s, hs, -⟩ := h
  rw [Controller.hasState, hs, Option.isSome_some]

theorem LeadsTo.congr (h : c.LeadsTo a b) (hs : c'.states = c.states) : c'.LeadsTo a b := by
  unfold LeadsTo state?
  rw [hs]
  exact h

theorem LeadsTo.snoc (h : c.LeadsTo a b) (s : State) :
    LeadsTo { c with states := c.states ++ [s] } a b := by
  obtain ⟨source, hs, hb⟩ := h
  exact ⟨source, state?_snoc_of_some hs s, hb⟩

theorem LeadsTo.wired (h : c.LeadsTo a b) (hs : spoke.id = k.label)
    (hc : c.hasState k.label = false) : (c.wired spoke k).LeadsTo a b := by
  have hne : a ≠ k.label := by
    rintro rfl
    rw [h.hasState] at hc
    cases hc
  obtain ⟨source, hsource, hb⟩ := h
  by_cases hhub : a = hubState
  · refine ⟨c.hub.addTransitions [k.entrance], ?_, ?_⟩
    · rw [state?_wired hs hc, if_pos hhub]
    · have hold : c.hub = source := by
        rw [hub, ← hhub, hsource, Option.getD_some]
      rw [hold, State.addTransitions, List.map_append]
      exact List.mem_append_left _ hb
  · refine ⟨source, ?_, hb⟩
    rw [state?_wired hs hc, if_neg hhub, if_neg hne, hsource]

theorem LeadsTo.resolve {branches : List ResolvedBranch} (h : c.LeadsTo a b)
    (hb : Branch.substituteId branches b = b) :
    (Branch.resolveController branches c).LeadsTo a b := by
  obtain ⟨source, hsource, htarget⟩ := h
  refine ⟨Branch.resolveState branches source, ?_, ?_⟩
  · rw [state?_resolveController, hsource, Option.map_some]
  · obtain ⟨t, ht, rfl⟩ := List.mem_map.mp htarget
    rw [Branch.resolveState, List.map_map]
    exact List.mem_map.mpr ⟨t, ht, hb⟩

theorem links_wired (s : LoopState) (kind : ControllerKind)
    (hc : c.hasState k.label = false) : ∀ l ∈ k.links,
      (c.wired (s.spoke kind k) k).LeadsTo l.1 l.2 := by
  have hstate : ∀ id, (c.wired (s.spoke kind k) k).state? id = _ :=
    fun id => state?_wired (s.id_spoke kind k) hc
  rintro l hl
  rcases List.mem_cons.mp hl with rfl | hl
  · refine ⟨_, (hstate hubState).trans (if_pos rfl), ?_⟩
    rw [State.addTransitions, List.map_append]
    exact List.mem_append_right _ (by simp [StateId.entrance])
  · obtain rfl := List.mem_singleton.mp hl
    refine ⟨s.spoke kind k, (hstate k.label).trans ?_, ?_⟩
    · rw [if_neg k.label_ne_hub, if_pos rfl]
    · rw [s.transitions_spoke]
      simp

end Controller

namespace Entity

variable {h added : List Placed} {e e' : Entity} {k n : StateId} {p : Placed} {s : LoopState}
  {length : Float} {event : String} {branches : List ResolvedBranch}
  {kind : ControllerKind} {i : Nat}

def Linked (kind : ControllerKind) (i : Nat) (h : List Placed) (c? : Option Controller) : Prop :=
  ∀ n ∈ wiredInto kind i h, ∃ c, c? = some c ∧ ∀ l ∈ n.links, c.LeadsTo l.1 l.2

theorem Linked.change {op : Operation} {given : List Controller.State} {c? : Option Controller}
    (hl : Linked kind i h (e.controllers kind)[i]?) (hc : Change e kind i op added given c?)
    (hs : e.branches.Sound) (hcount : e.stateCount = h.length) :
    Linked kind i (h ++ added) c? := by
  -- The states that were wired before keep their links as long as the controller grows.
  have keeps : ∀ {c d : Controller}, (e.controllers kind)[i]? = some c →
      (∀ n ∈ wiredInto kind i h, ∀ l ∈ StateId.links n, c.LeadsTo l.1 l.2 → d.LeadsTo l.1 l.2) →
      Linked kind i h (some d) := by
    intro c d hsome hkeep n hn
    obtain ⟨c', hc', hlinks⟩ := hl n hn
    obtain rfl : c = c' := Option.some.inj (hsome.symm.trans hc')
    exact ⟨d, rfl, fun l hm => hkeep n hn l hm (hlinks l hm)⟩
  cases hc with
  | vacant hnone hadded =>
    unfold Linked
    rw [wiredInto_append hadded, ← hnone]
    exact hl
  | kept hsome hadded _ hstates =>
    unfold Linked
    rw [wiredInto_append hadded]
    exact keeps hsome fun n _ l _ hlink => hlink.congr hstates
  | created hnone _ =>
    rw [List.append_nil]
    intro n hn
    obtain ⟨c, hc, -⟩ := hl n hn
    rw [hnone] at hc
    cases hc
  | @extended c s hsome _ =>
    rw [List.append_nil]
    exact keeps hsome fun n _ l _ hlink => hlink.snoc s
  | @wired c s group hsome hfree hw =>
    have hnew : (⟨h.length⟩ : StateId) = e.nextState := congrArg StateId.mk hcount.symm
    intro n hn
    rw [wiredInto_snoc hw, hnew] at hn
    rcases List.mem_append.mp hn with hn | hn
    · refine keeps hsome (fun n _ l _ hlink => ?_) n hn
      exact hlink.wired (s.id_spoke kind e.nextState) hfree
    · rw [List.mem_singleton.mp hn]
      exact ⟨_, rfl, Controller.links_wired s kind hfree⟩
  | resolved hsome hres _ =>
    rw [List.append_nil]
    refine keeps hsome fun n _ l hm hlink => hlink.resolve ?_
    -- Both ends of a link are reserved, so they are no names.
    refine Branch.substituteId_other hres fun b hb heq => ?_
    have hfree := hs.unreserved b hb
    rcases List.mem_cons.mp hm with rfl | hm
    · rw [heq, n.reserved_label] at hfree
      cases hfree
    · rw [heq, List.mem_singleton.mp hm] at hfree
      cases hfree

theorem linked_run (scope name : String) (o : Options) (ops : List Operation)
    (kind : ControllerKind) (i : Nat) :
    Linked kind i (history (new scope name o) ops)
      ((run (new scope name o) ops).controllers kind)[i]? := by
  induction ops using List.reverseRecOn with
  | nil =>
    intro n hn
    cases hn
  | append_singleton ops op ih =>
    have hc := change_after (run (new scope name o) ops) op kind i
    rw [history_snoc, run_snoc]
    exact ih.change hc (sound_reachable (reachable_run (.new scope name o) ops))
      (count_run scope name o ops)

/-- A loop state adds the transitions of its links and no others. -/
theorem transition_added {scope name : String} {o : Options} {ops : List Operation}
    {c : Controller} {source : Controller.State} {t : String × String}
    (hc : ((run (new scope name o) (ops ++ [.addLoopState s])).controllers kind)[i]? = some c)
    (hs : source ∈ c.states) (ht : t ∈ source.transitions) :
    (∃ d, ((run (new scope name o) ops).controllers kind)[i]? = some d ∧
      ∃ old ∈ d.states, old.id = source.id ∧ t ∈ old.transitions) ∨
    ∃ n ∈ wiredInto kind i (history (new scope name o) (ops ++ [.addLoopState s])),
      (source.id, t.1) ∈ n.links := by
  rw [run_snoc] at hc
  rcases after_addLoopState s (run (new scope name o) ops) with ⟨ha, heq, hrec⟩ | ⟨heq, -⟩
  · rw [heq, controllers_withLoopState] at hc
    split at hc
    · rename_i hw
      obtain ⟨d, hd, rfl⟩ := Option.map_eq_some_iff.mp hc
      have hn : (run (new scope name o) ops).nextState ∈
          wiredInto kind i (history (new scope name o) (ops ++ [.addLoopState s])) := by
        rw [history_snoc, hrec, wiredInto_snoc hw, ← count_run]
        exact List.mem_append_right _ (List.mem_singleton.mpr rfl)
      rcases Controller.transition_wired hs ht with hold | ⟨hid, rfl⟩ | ⟨rfl, ht⟩
      · exact Or.inl ⟨d, hd, hold⟩
      · refine Or.inr ⟨_, hn, ?_⟩
        rw [hid]
        exact List.mem_cons_self
      · rw [s.transitions_spoke, List.mem_singleton] at ht
        refine Or.inr ⟨_, hn, ?_⟩
        rw [ht, s.id_spoke]
        exact List.mem_cons_of_mem _ (List.mem_singleton.mpr rfl)
    · exact Or.inl ⟨c, hc, source, hs, rfl, ht⟩
  · rw [heq] at hc
    exact Or.inl ⟨c, hc, source, hs, rfl, ht⟩

def Grouped (h : List Placed) (e : Entity) : Prop :=
  ∀ (k : StateId) p, h[k.index]? = some p →
    ∃ g, e.behavior.groups[p.group]? = some g ∧ g.fullId = k.label

theorem Grouped.append {groups : List ComponentGroup} (hg : Grouped h e)
    (heq : e'.behavior.groups = e.behavior.groups ++ groups) : Grouped h e' := by
  intro k p hp
  obtain ⟨g, hget, hid⟩ := hg k p hp
  refine ⟨g, ?_, hid⟩
  rw [heq, List.getElem?_append_left (List.getElem?_eq_some_iff.mp hget).1]
  exact hget

theorem grouped_progress (hr : Recorded h e) (hg : Grouped h e) (hp : Progress e e' added) :
    Grouped (h ++ added) e' := by
  cases hp with
  | appended ha =>
    obtain ⟨groups, hgroups⟩ := ha.groups
    rw [List.append_nil]
    exact hg.append hgroups
  | @placed s _ =>
    have hgroups : (e.withLoopState s).behavior.groups =
        e.behavior.groups ++ [s.group e.nextState] := rfl
    intro k p hp
    rcases getElem?_snoc hp with hp | ⟨hk, rfl⟩
    · exact hg.append hgroups k p hp
    · obtain rfl : e.nextState = k := congrArg StateId.mk (hr.count.trans hk.symm)
      rw [hgroups]
      exact ⟨s.group e.nextState, List.getElem?_concat_length, rfl⟩
  | @resolved branches _ =>
    rw [List.append_nil]
    intro k p hp
    obtain ⟨g, hget, hid⟩ := hg k p hp
    refine ⟨g.mapText (Branch.substituteId branches), ?_, hid⟩
    simp only [withResolved, Branch.resolveBehavior, List.getElem?_map]
    rw [Branch.stitchAll_eq, Branch.sewn, hget]
    rfl

theorem grouped_run (scope name : String) (o : Options) {ops : List Operation}
    (hops : ∀ op ∈ ops, op.SparesStates) :
    Recorded (history (new scope name o) ops) (run (new scope name o) ops) ∧
      Grouped (history (new scope name o) ops) (run (new scope name o) ops) :=
  run_induction (h := []) (P := fun h e => Recorded h e ∧ Grouped h e)
    (fun hP hp => ⟨recorded_progress hP.1 hp, grouped_progress hP.1 hP.2 hp⟩)
    ⟨recorded_new scope name o, fun _ _ hp => by cases hp⟩ hops

/-- The state that the timer of an accepted state leads to. -/
inductive TimerTarget (h : List Placed) (k : StateId) (s : LoopState) : StateId → Prop where
  | branch {name t} : s.timerBranch = some name → Named h name t → TimerTarget h k s t
  | closing : s.timerBranch = none → s.last = true → TimerTarget h k s .first
  | next : s.timerBranch = none → s.last = false → TimerTarget h k s k.next

theorem timerTarget_of_expires (hr : Recorded h e) (hp : h[k.index]? = some p)
    (hl : p.state.timer = some length) {t : StateId} (hx : Expires h k p.state t.label) :
    TimerTarget h k p.state t := by
  rcases hx with hx | ⟨name, u, hb, hn, hx⟩
  · cases hb : p.state.timerBranch with
    | some name =>
      have hevent : p.state.expiryEvent k = name := by simp [LoopState.expiryEvent, hb]
      have hfree := hr.sound.unreserved _ (hr.entry_mem (mentions_timerBranch hp hl hb))
      rw [Registry.name_entry, ← hevent, ← hx, t.reserved_label] at hfree
      cases hfree
    | none =>
      cases hlast : p.state.last with
      | true =>
        have hevent : p.state.expiryEvent k = StateId.first.label := by
          simp [LoopState.expiryEvent, hb, hlast]
        rw [StateId.label_injective (hx.trans hevent)]
        exact .closing hb hlast
      | false =>
        have hevent : p.state.expiryEvent k = k.next.label := by
          simp [LoopState.expiryEvent, hb, hlast]
        rw [StateId.label_injective (hx.trans hevent)]
        exact .next hb hlast
  · rw [StateId.label_injective hx]
    exact .branch hb hn

/-- The last state has no timer that leads past the end of the loop. -/
def Terminated (h : List Placed) : Prop :=
  ∀ p, h.getLast? = some p →
    p.state.timer = none ∨ p.state.last = true ∨ p.state.timerBranch.isSome = true

theorem TimerTarget.bound (hend : Terminated h) (hp : h[k.index]? = some p)
    (hl : p.state.timer = some length) {t : StateId} (ht : TimerTarget h k p.state t) :
    t.index < h.length := by
  have hk := (List.getElem?_eq_some_iff.mp hp).1
  cases ht with
  | branch _ hn => exact accepted_bound hn
  | closing _ _ => exact Nat.zero_lt_of_lt hk
  | next hb hlast =>
    rcases Nat.lt_or_ge k.next.index h.length with hlt | hge
    · exact hlt
    · have hk' : k.index = h.length - 1 := by
        have hnext : k.next.index = k.index + 1 := rfl
        omega
      rw [hk', ← List.getLast?_eq_getElem?] at hp
      rcases hend p hp with hnone | htrue | hsome
      · rw [hl] at hnone
        cases hnone
      · rw [hlast] at htrue
        cases htrue
      · rw [hb] at hsome
        cases hsome

theorem Precedes.bound {j : StateId} (hk : k.index < h.length) (hp : Precedes h k j) :
    j.index < h.length := by
  cases hp with
  | before heq =>
    rw [heq] at hk
    exact Nat.lt_of_succ_lt hk
  | closing _ _ hl => exact accepted_bound hl

theorem Meets.bound {j : StateId} (hm : Meets h k j) : j.index < h.length := by
  rcases hm.leads with ⟨name, hs, -⟩ | ⟨name, -, ht⟩
  · exact accepted_bound hs
  · exact accepted_bound ht

/-- Every event with the id of a state is the one that the state generated. -/
theorem Wired.event_eq (hw : Wired h e) (hres : e.branches.resolved = .ok branches) {ev : Event}
    (hev : ev ∈ (e.withResolved branches).behavior.events) (hid : ev.fullId = k.label) :
    k.index < h.length ∧ WiredEvent h k ev := by
  have hids : ((e.withResolved branches).behavior.events.map Event.fullId).count k.label =
      if k.index < h.length then 1 else 0 := by
    rw [ids_withResolved e hres, hw.ids]
  have hm : k.label ∈ (e.withResolved branches).behavior.events.map Event.fullId :=
    List.mem_map.mpr ⟨ev, hev, hid⟩
  have hk : k.index < h.length := by
    by_contra hk
    rw [if_neg hk] at hids
    exact List.count_eq_zero.mp hids hm
  obtain ⟨ev', hev', hwired, -⟩ := resolved_event hw hres hk
  rw [if_pos hk] at hids
  have hone := filter_key_eq_singleton hids hev'
  have hmem : ev ∈ (e.withResolved branches).behavior.events.filter (·.fullId == k.label) :=
    List.mem_filter.mpr ⟨hev, beq_iff_eq.mpr hid⟩
  rw [hone] at hmem
  rw [List.mem_singleton.mp hmem]
  exact ⟨hk, hwired⟩

/-- After a run and a successful resolution, the timer in the group of a state fires the event
of the state that was asked for, the event of a state names groups of accepted states only,
and the links between a hub and its spokes end at states of their controller. A loop state
generates no other transitions than its links. -/
theorem generated_references_exist (scope name : String) (o : Options) {ops : List Operation}
    (hops : ∀ op ∈ ops, op.SparesStates) (hend : Terminated (history (new scope name o) ops))
    (hok : resolveBranches.apply (run (new scope name o) ops) = (e', .ok ())) :
    (∀ (k : StateId) p length, (history (new scope name o) ops)[k.index]? = some p →
      p.state.timer = some length → ∃ g t, e'.behavior.groups[p.group]? = some g ∧
        g.fullId = k.label ∧ g.components[1]? = some (.timer length t.label) ∧
        TimerTarget (history (new scope name o) ops) k p.state t ∧
        t.index < (history (new scope name o) ops).length ∧
        ∃ ev ∈ e'.behavior.events, ev.fullId = t.label) ∧
    (∀ ev ∈ e'.behavior.events, ∀ k : StateId, ev.fullId = k.label →
      ∀ group ∈ ev.add ++ ev.remove, ∃ j : StateId, group = j.label ∧
        j.index < (history (new scope name o) ops).length ∧
        ∃ g ∈ e'.behavior.groups, g.fullId = group) ∧
    (∀ kind i, ∀ n ∈ wiredInto kind i (history (new scope name o) ops),
      ∃ c, (e'.controllers kind)[i]? = some c ∧
        ∀ l ∈ n.links, c.LeadsTo l.1 l.2 ∧ c.hasState l.2 = true) ∧
    ∀ s kind i c,
      ((run (new scope name o) (ops ++ [.addLoopState s])).controllers kind)[i]? = some c →
      ∀ source ∈ c.states, ∀ t ∈ source.transitions,
        (∃ d, ((run (new scope name o) ops).controllers kind)[i]? = some d ∧
          ∃ old ∈ d.states, old.id = source.id ∧ t ∈ old.transitions) ∨
        ∃ n ∈ wiredInto kind i (history (new scope name o) (ops ++ [.addLoopState s])),
          (source.id, t.1) ∈ n.links := by
  obtain ⟨hr, hgrouped⟩ := grouped_run scope name o hops
  obtain ⟨-, htimed⟩ := timed_run scope name o hops
  have hw := wired_run scope name o hops
  obtain ⟨branches, hres, rfl⟩ := resolve_ok hok
  have hplace : Grouped (history (new scope name o) ops)
      ((run (new scope name o) ops).withResolved branches) := by
    have hprogress := grouped_progress hr hgrouped (.resolved hres)
    rwa [List.append_nil] at hprogress
  refine ⟨fun k p length hp hl => ?_, fun ev hev k hid group hgroup => ?_, fun kind i n hn => ?_,
    fun s kind i c hc source hsource t ht => transition_added hc hsource ht⟩
  · obtain ⟨event, hat, hx⟩ := htimed k p length hp hl
    obtain ⟨t, hsub, -, hx⟩ := hx.resolve hr hres hp hl
    have htarget := timerTarget_of_expires hr hp hl hx
    obtain ⟨ev, hev, -⟩ := resolved_event hw hres (htarget.bound hend hp hl)
    obtain ⟨g, hget, hid⟩ := hplace k p hp
    have hresolved : TimerAt ((run (new scope name o) ops).withResolved branches) p length
        (Branch.substituteId branches event) := hat.resolve
    obtain ⟨g', hget', htimer⟩ := hresolved
    obtain rfl : g = g' := Option.some.inj (hget.symm.trans hget')
    have hbears := List.find?_some hev
    exact ⟨g, t, hget, hid, hsub ▸ htimer, htarget, htarget.bound hend hp hl, ev,
      List.mem_of_find?_eq_some hev, beq_iff_eq.mp hbears⟩
  · obtain ⟨hk, hwired⟩ := hw.event_eq hres hev hid
    have hlisted : ∃ j : StateId, group = j.label ∧
        j.index < (history (new scope name o) ops).length := by
      rcases List.mem_append.mp hgroup with hadd | hremove
      · rw [hwired.add, List.mem_singleton] at hadd
        exact ⟨k, hadd, hk⟩
      · obtain ⟨j, hj, hor⟩ := hwired.only group hremove
        exact ⟨j, hj, hor.elim (Precedes.bound hk) Meets.bound⟩
    obtain ⟨j, hj, hlt⟩ := hlisted
    obtain ⟨g, hget, hid⟩ := hplace j _ (List.getElem?_eq_getElem hlt)
    exact ⟨j, hj, hlt, g, List.mem_of_getElem? hget, hid.trans hj.symm⟩
  · have hlinked := linked_run scope name o (ops ++ [.resolveBranches]) kind i
    have hhistory : history (new scope name o) (ops ++ [.resolveBranches]) =
        history (new scope name o) ops := (history_snoc _ ops _).trans (List.append_nil _)
    have hrun : run (new scope name o) (ops ++ [.resolveBranches]) =
        (run (new scope name o) ops).withResolved branches :=
      (run_snoc _ ops _).trans (after_resolved hres)
    rw [hhistory, hrun] at hlinked
    obtain ⟨c, hc, hlinks⟩ := hlinked n hn
    refine ⟨c, hc, fun l hl => ⟨hlinks l hl, ?_⟩⟩
    exact (hlinks _ (StateId.links_symm hl)).hasState

/-- The first timer leads to a name that only the last state gets; the early resolution fails.
The last state has a timer too, which closes the loop. -/
def forwardRun : List Operation := [
  .createController .behavior "timing" none,
  .addLoopState { timer := some 3.0, timerBranch := some "hurt"
                  entryCommands := some ["/say calm"] },
  .resolveBranches,
  .addLoopState { timer := some 2.0, connections := ["hurt"] },
  .addLoopState { name := some "hurt", timer := some 1.0, last := true
                  exitCommands := some ["/say hurt"] }]

theorem forward_timer_references : (∀ op ∈ forwardRun, op.SparesStates) ∧
    Terminated (history (new "dev" "Boss" {}) forwardRun) ∧ ∃ e' p g c,
      resolveBranches.apply (run (new "dev" "Boss" {}) forwardRun) = (e', .ok ()) ∧
      (history (new "dev" "Boss" {}) forwardRun)[0]? = some p ∧
      e'.behavior.groups[p.group]? = some g ∧ g.fullId = "state_0" ∧
      (∃ length, g.components[1]? = some (.timer length "state_2")) ∧
      (e'.controllers .behavior)[0]? = some c ∧ c.LeadsTo "init" "state_2" ∧
      c.hasState "state_2" = true := by
  have hspares : ∀ op ∈ forwardRun, op.SparesStates := by simp [forwardRun, Operation.SparesStates]
  have hend : Terminated (history (new "dev" "Boss" {}) forwardRun) := by
    intro p hp
    have hlast : (history (new "dev" "Boss" {}) forwardRun).getLast?.map (·.state.last) =
        some true := by decide +kernel
    rw [hp] at hlast
    exact Or.inr (Or.inl (Option.some.inj hlast))
  have hres : (run (new "dev" "Boss" {}) forwardRun).branches.resolved =
      .ok [⟨"hurt", ⟨2⟩, [⟨0⟩, ⟨1⟩]⟩] := by decide +kernel
  obtain ⟨htimers, -, hlinks, -⟩ :=
    generated_references_exist "dev" "Boss" {} hspares hend (resolve_eq hres)
  have hfirst : (history (new "dev" "Boss" {}) forwardRun)[0]?.map
      (fun p => (p.state.timer.isSome, p.state.timerBranch)) = some (true, some "hurt") := by
    decide +kernel
  obtain ⟨p, hp, hstate⟩ := Option.map_eq_some_iff.mp hfirst
  obtain ⟨hsome, hbranch⟩ := Prod.mk.inj hstate
  obtain ⟨length, hl⟩ := Option.isSome_iff_exists.mp hsome
  obtain ⟨g, t, hg, hid, htimer, htarget, -, -⟩ := htimers ⟨0⟩ p length hp hl
  have hwired : (⟨2⟩ : StateId) ∈
      wiredInto .behavior 0 (history (new "dev" "Boss" {}) forwardRun) := by
    decide +kernel
  obtain ⟨c, hc, hlinked⟩ := hlinks .behavior 0 ⟨2⟩ hwired
  obtain ⟨hleads, hhas⟩ := hlinked ("init", "state_2") (by decide +kernel)
  refine ⟨hspares, hend, _, p, g, c, resolve_eq hres, hp, hg, hid, ⟨length, ?_⟩, hc, hleads, hhas⟩
  have ht : t = ⟨2⟩ := by
    cases htarget with
    | branch hb hn =>
      obtain rfl := Option.some.inj (hbranch.symm.trans hb)
      have htarget := ((timed_run "dev" "Boss" {} hspares).1.target "hurt" t).mpr hn
      have hentry : ((run (new "dev" "Boss" {}) forwardRun).branches.entry "hurt").target =
          some ⟨2⟩ := by decide +kernel
      exact Option.some.inj (htarget.symm.trans hentry)
    | closing hb _ =>
      rw [hbranch] at hb
      cases hb
    | next hb _ =>
      rw [hbranch] at hb
      cases hb
  rw [ht] at htimer
  exact htimer

end Entity
end EntityPack
