import EntityPack.Proofs.History
import EntityPack.Proofs.Resolution

/-!
# The events of loop states

Every accepted loop state has one event, which adds its group and no other. The groups that
the event removes are those from which its state can be entered or which it leads to: the
state before it, the states that close the loop, and the states that its branches connect
with. The last kind is complete only after resolution.
-/
namespace EntityPack.Entity

inductive Precedes (h : List Placed) (k j : StateId) : Prop where
  | before : k = j.next → Precedes h k j
  | closing : k = .first → 0 < j.index → Accepted h j (·.last = true) → Precedes h k j

structure Meets (h : List Placed) (k j : StateId) : Prop where
  ne : j ≠ k
  leads : Leads h j k ∨ Leads h k j

/-- The event of state `k`. It has to remove what precedes it, and may remove what it meets. -/
structure WiredEvent (h : List Placed) (k : StateId) (ev : Event) : Prop where
  add : ev.add = [k.label]
  nodup : ev.remove.Nodup
  preceding : ∀ j, Precedes h k j → j.label ∈ ev.remove
  only : ∀ group ∈ ev.remove, ∃ j, group = j.label ∧ (Precedes h k j ∨ Meets h k j)

structure Wired (h : List Placed) (e : Entity) : Prop where
  recorded : Recorded h e
  ids : ∀ k : StateId, (e.behavior.events.map Event.fullId).count k.label =
    if k.index < h.length then 1 else 0
  event : ∀ k : StateId, k.index < h.length →
    ∃ ev, e.behavior.event? k.label = some ev ∧ WiredEvent h k ev

variable {h h' added : List Placed} {e e' : Entity} {j k : StateId} {ev : Event} {s : LoopState}

theorem Precedes.ne (hp : Precedes h k j) : j ≠ k := by
  rintro rfl
  cases hp with
  | before heq => exact Nat.succ_ne_self _ (congrArg StateId.index heq).symm
  | closing heq hpos _ =>
    rw [heq] at hpos
    exact Nat.lt_irrefl 0 hpos

theorem Precedes.append (hp : Precedes h k j) : Precedes (h ++ added) k j := by
  cases hp with
  | before heq => exact .before heq
  | closing heq hpos hl => exact .closing heq hpos (accepted_append hl)

theorem Meets.append (hm : Meets h k j) : Meets (h ++ added) k j :=
  ⟨hm.ne, hm.leads.imp Leads.append Leads.append⟩

/-- Only a new state that closes the loop precedes a state in a new way. -/
theorem precedes_snoc {p : Placed} (hp : Precedes (h ++ [p]) k j) :
    Precedes h k j ∨ (k = .first ∧ 0 < j.index ∧ j.index = h.length ∧ p.state.last = true) := by
  cases hp with
  | before heq => exact Or.inl (.before heq)
  | closing heq hpos hl =>
    rcases accepted_snoc.mp hl with hl | ⟨hj, hl⟩
    · exact Or.inl (.closing heq hpos hl)
    · exact Or.inr ⟨heq, hpos, hj, hl⟩

namespace WiredEvent

theorem extend {groups : List String} (hw : WiredEvent h k ev) (hd : groups.Nodup)
    (hnew : ∀ group ∈ groups, group ∉ ev.remove ∧
      ∃ j, group = j.label ∧ (Precedes (h ++ added) k j ∨ Meets (h ++ added) k j))
    (hpre : ∀ j, Precedes (h ++ added) k j → Precedes h k j ∨ j.label ∈ ev.remove ++ groups) :
    WiredEvent (h ++ added) k { ev with remove := ev.remove ++ groups } where
  add := hw.add
  nodup := by
    refine List.nodup_append.mpr ⟨hw.nodup, hd, ?_⟩
    rintro a ha b hb rfl
    exact (hnew a hb).1 ha
  preceding j hj := by
    rcases hpre j hj with hj | hj
    · exact List.mem_append_left _ (hw.preceding j hj)
    · exact hj
  only group hg := by
    rcases List.mem_append.mp hg with hg | hg
    · obtain ⟨j, hj, hor⟩ := hw.only group hg
      exact ⟨j, hj, hor.imp Precedes.append Meets.append⟩
    · exact (hnew group hg).2

theorem map {f : String → String} (hf : ∀ j : StateId, f j.label = j.label)
    (hw : WiredEvent h k ev) : WiredEvent h k (ev.mapReferences f) ∧
      (ev.mapReferences f).remove = ev.remove := by
  have hremove : (ev.mapReferences f).remove = ev.remove := by
    rw [Event.remove_mapReferences]
    refine (List.map_congr_left fun group hg => ?_).trans (List.map_id' _)
    obtain ⟨j, rfl, -⟩ := hw.only group hg
    exact hf j
  refine ⟨⟨?_, hremove ▸ hw.nodup, hremove ▸ hw.preceding, hremove ▸ hw.only⟩, hremove⟩
  rw [Event.add_mapReferences, hw.add, List.map_singleton, hf]

end WiredEvent

theorem wiredEvent_new (hk : k.index = h.length) (group : Nat) :
    WiredEvent (h ++ [⟨s, group⟩]) k (s.event k) := by
  have hprev : ∀ j : StateId, k.prev? = some j ↔ k = j.next := by
    intro j
    obtain ⟨i⟩ := k
    obtain ⟨m⟩ := j
    cases i with
    | zero => simp [StateId.prev?, StateId.next]
    | succ i => simp [StateId.prev?, StateId.next, eq_comm]
  have hremove : ∀ group, group ∈ (s.event k).remove ↔ ∃ j : StateId, k = j.next ∧
      j.label = group := by
    intro group
    simp only [LoopState.event, Option.mem_toList, Option.map_eq_some_iff, hprev]
  refine ⟨rfl, ?_, ?_, ?_⟩
  · simp only [LoopState.event]
    cases k.prev? <;> simp
  · intro j hj
    rcases precedes_snoc hj with hj | ⟨hfirst, hpos, hlen, -⟩
    · cases hj with
      | before heq => exact (hremove _).mpr ⟨j, heq, rfl⟩
      | closing heq hpos hl =>
        have hlt := accepted_bound hl
        rw [← hk, heq] at hlt
        exact (Nat.not_lt_zero _ hlt).elim
    · rw [← hlen, hfirst] at hk
      rw [← hk] at hpos
      exact (Nat.lt_irrefl 0 hpos).elim
  · intro group hg
    obtain ⟨j, heq, hj⟩ := (hremove group).mp hg
    exact ⟨j, hj.symm, Or.inl (.before heq)⟩

theorem wiredEvent_closed {id : StateId} {group : Nat} (hw : WiredEvent h k ev)
    (hid : id.index = h.length) (hc : k = .first ∧ s.last = true ∧ id ≠ .first) :
    WiredEvent (h ++ [⟨s, group⟩]) k (ev.ensureRemoves id.label) := by
  obtain ⟨hfirst, hl, hne⟩ := hc
  have hcloses : Precedes (h ++ [⟨s, group⟩]) k id :=
    .closing hfirst (StateId.pos_of_ne_first hne) (accepted_snoc.mpr (Or.inr ⟨hid, hl⟩))
  rw [Event.ensureRemoves_eq]
  refine hw.extend ?_ ?_ ?_
  · split <;> simp
  · intro group hg
    split at hg
    · cases hg
    · rename_i hnot
      rw [List.mem_singleton.mp hg]
      exact ⟨hnot, id, rfl, Or.inl hcloses⟩
  · intro j hj
    rcases precedes_snoc hj with hj | ⟨-, -, hlen, -⟩
    · exact Or.inl hj
    · obtain rfl : id = j := congrArg StateId.mk (hid.trans hlen.symm)
      refine Or.inr (List.mem_append.mpr ?_)
      by_cases hm : id.label ∈ ev.remove
      · exact Or.inl hm
      · exact Or.inr (by simp [hm])

theorem wiredEvent_kept {id : StateId} {group : Nat} (hw : WiredEvent h k ev)
    (hid : id.index = h.length) (hc : ¬ (k = .first ∧ s.last = true ∧ id ≠ .first)) :
    WiredEvent (h ++ [⟨s, group⟩]) k ev := by
  rw [← Event.append_nothing ev]
  refine hw.extend List.nodup_nil (by simp) fun j hj => ?_
  rcases precedes_snoc hj with hj | ⟨hfirst, hpos, hlen, hl⟩
  · exact Or.inl hj
  · refine (hc ⟨hfirst, hl, fun heq => ?_⟩).elim
    rw [hlen, ← hid, heq] at hpos
    exact Nat.lt_irrefl 0 hpos

theorem event?_none_iff {b : Behavior} {id : String} :
    b.event? id = none ↔ (b.events.map Event.fullId).count id = 0 := by
  rw [Behavior.event?, List.find?_eq_none, List.count_eq_zero, List.mem_map]
  simp

theorem event?_addEvent (b : Behavior) (new : Event) (id : String) :
    (b.addEvent new).event? id =
      (b.event? id).or (if new.fullId = id then some new else none) := by
  rw [Behavior.event?, Behavior.addEvent, List.find?_append, find?_key_cons]
  rfl

theorem ids_extend (id : StateId) (s : LoopState) (b : Behavior) :
    (s.extend id b).events.map Event.fullId = b.events.map Event.fullId ++ [id.label] := by
  unfold LoopState.extend
  dsimp only
  split
  · rw [map_modifyFirst _ (Event.fullId_ensureRemoves _), List.map_append]
    rfl
  · rw [List.map_append]
    rfl

/-- A new state that closes the loop changes the event of the first state and no other. -/
theorem event?_extend (id : StateId) (s : LoopState) (b : Behavior) (k : StateId) :
    (s.extend id b).event? k.label =
      if k = .first ∧ s.last = true ∧ id ≠ .first then
        ((b.addEvent (s.event id)).event? k.label).map (·.ensureRemoves id.label)
      else (b.addEvent (s.event id)).event? k.label := by
  have hcloses : (s.last && !id.isFirst) = true ↔ s.last = true ∧ id ≠ .first := by
    rw [Bool.and_eq_true, Bool.not_eq_true', ← Bool.not_eq_true, StateId.isFirst_iff]
  unfold Behavior.event? LoopState.extend
  dsimp only
  by_cases hc : s.last = true ∧ id ≠ .first
  · rw [if_pos (hcloses.mpr hc), find?_modifyFirst (Event.fullId_ensureRemoves _)]
    simp only [StateId.label_inj, hc, ne_eq, not_false_eq_true, and_true]
    rfl
  · rw [if_neg (hcloses.not.mpr hc), if_neg fun h => hc h.2]
    rfl

theorem wired_new (scope name : String) (o : Options) : Wired [] (new scope name o) where
  recorded := recorded_new scope name o
  ids k := by
    have hne : despawnEvent.fullId ≠ k.label :=
      StateId.label_ne_of_unreserved (by decide +kernel) k
    simp only [new, List.length_nil, Nat.not_lt_zero, if_false]
    split <;> simp [hne]
  event k hk := (Nat.not_lt_zero _ hk).elim

theorem wired_appended (hw : Wired h e) (ha : Appends e e') : Wired h e' := by
  obtain ⟨evs, hevs, hforeign⟩ := ha.events
  have hnone : ∀ k : StateId, (evs.map Event.fullId).count k.label = 0 := by
    intro k
    rw [List.count_eq_zero, List.mem_map]
    rintro ⟨ev, hev, hid⟩
    exact hforeign ev hev k hid
  refine ⟨by simpa using recorded_progress hw.recorded (.appended ha), ?_, ?_⟩
  · intro k
    rw [hevs, List.map_append, List.count_append, hnone, hw.ids, Nat.add_zero]
  · intro k hk
    obtain ⟨ev, hev, hwired⟩ := hw.event k hk
    refine ⟨ev, ?_, hwired⟩
    rw [Behavior.event?, hevs, List.find?_append, ← Behavior.event?, hev]
    rfl

/-- Of the earlier events only that of the first state changes, if the new state closes the
loop. -/
theorem event?_earlier (s : LoopState) (hev : e.behavior.event? k.label = some ev) :
    (e.withLoopState s).behavior.event? k.label =
      some (if k = .first ∧ s.last = true ∧ e.nextState ≠ .first
        then ev.ensureRemoves e.nextState.label else ev) := by
  simp only [withLoopState, event?_extend, event?_addEvent, hev, Option.some_or, Option.map_some]
  split <;> rfl

theorem event?_nextState (hw : Wired h e) (s : LoopState) :
    (e.withLoopState s).behavior.event? e.nextState.label = some (s.event e.nextState) := by
  have hnext : e.nextState.index = h.length := hw.recorded.count
  have hnone : e.behavior.event? e.nextState.label = none := by
    rw [event?_none_iff, hw.ids, if_neg (by omega)]
  simp only [withLoopState, event?_extend, event?_addEvent]
  rw [if_neg fun hc => hc.2.2 hc.1, hnone]
  exact if_pos rfl

theorem wired_placed (hw : Wired h e) (ha : Acceptable s e) (group : Nat) :
    Wired (h ++ [⟨s, group⟩]) (e.withLoopState s) := by
  have hnext : e.nextState.index = h.length := hw.recorded.count
  refine ⟨recorded_withLoopState hw.recorded ha group, ?_, ?_⟩
  · intro k
    have hcount := hw.ids k
    simp only [withLoopState, ids_extend, List.count_append, hcount, List.length_append,
      List.length_singleton, List.count_singleton, beq_iff_eq, StateId.label_inj]
    by_cases hk : e.nextState = k
    · subst hk
      simp [hnext]
    · have hne : k.index ≠ h.length := fun hi => hk (congrArg StateId.mk (hi ▸ hnext))
      rw [if_neg hk]
      split <;> split <;> omega
  · intro k hk
    rw [List.length_append, List.length_singleton] at hk
    rcases Nat.lt_succ_iff_lt_or_eq.mp hk with hk | hk
    · obtain ⟨ev, hev, hwired⟩ := hw.event k hk
      rw [event?_earlier s hev]
      by_cases hc : k = .first ∧ s.last = true ∧ e.nextState ≠ .first
      · exact ⟨_, by rw [if_pos hc], wiredEvent_closed hwired hnext hc⟩
      · exact ⟨ev, by rw [if_neg hc], wiredEvent_kept hwired hnext hc⟩
    · obtain rfl : e.nextState = k := congrArg StateId.mk (hnext.trans hk.symm)
      exact ⟨_, event?_nextState hw s, wiredEvent_new hk group⟩

theorem partner_iff_meets (hr : Recorded h e) {group : String} :
    e.branches.Partner k.label group ↔ ∃ j : StateId, group = j.label ∧ Meets h k j := by
  simp only [Registry.Partner, StateId.label_inj]
  constructor
  · rintro ⟨s, t, hc, hne, ⟨rfl, rfl⟩ | ⟨rfl, rfl⟩⟩
    · exact ⟨s, rfl, hne, Or.inl (hr.connects_iff_leads.mp hc)⟩
    · exact ⟨t, rfl, Ne.symm hne, Or.inr (hr.connects_iff_leads.mp hc)⟩
  · rintro ⟨j, rfl, hne, hl | hl⟩
    · exact ⟨j, k, hr.connects_iff_leads.mpr hl, hne, Or.inl ⟨rfl, rfl⟩⟩
    · exact ⟨k, j, hr.connects_iff_leads.mpr hl, Ne.symm hne, Or.inr ⟨rfl, rfl⟩⟩

variable {branches : List ResolvedBranch}

/-- Resolution completes the remove-list of an event and rewrites its references. -/
theorem event?_withResolved (hres : e.branches.resolved = .ok branches) {id : String}
    (hev : e.behavior.event? id = some ev) : ∃ groups,
      (e.withResolved branches).behavior.event? id = some
        (Event.mapReferences (Branch.substituteId branches)
          { ev with remove := ev.remove ++ groups }) ∧
      groups.Nodup ∧
      ∀ group, group ∈ groups ↔ group ∉ ev.remove ∧ e.branches.Partner id group := by
  obtain ⟨events, hstitched, heq⟩ := stitched_behavior hres
  obtain ⟨groups, hfind, hd, hm⟩ := hstitched.find hev
  refine ⟨groups, ?_, hd, hm⟩
  simp only [withResolved, heq, Branch.resolveBehavior, Behavior.event?, List.find?_map,
    Function.comp_def, Event.fullId_mapReferences, hfind, Option.map_some]

theorem resolved_event (hw : Wired h e) (hres : e.branches.resolved = .ok branches)
    (hk : k.index < h.length) :
    ∃ ev, (e.withResolved branches).behavior.event? k.label = some ev ∧ WiredEvent h k ev ∧
      ∀ j, Meets h k j → j.label ∈ ev.remove := by
  obtain ⟨ev, hev, hwired⟩ := hw.event k hk
  obtain ⟨groups, hfind, hd, hm⟩ := event?_withResolved hres hev
  have hsewn : WiredEvent h k { ev with remove := ev.remove ++ groups } := by
    rw [← List.append_nil h]
    refine hwired.extend hd ?_ fun j hj => Or.inl (by rwa [List.append_nil] at hj)
    intro group hg
    obtain ⟨hnot, hpartner⟩ := (hm group).mp hg
    obtain ⟨j, hj, hmeets⟩ := (partner_iff_meets hw.recorded).mp hpartner
    exact ⟨hnot, j, hj, Or.inr hmeets.append⟩
  have hmapped := hsewn.map (Branch.substituteId_label hw.recorded.sound hres)
  refine ⟨_, hfind, hmapped.1, ?_⟩
  intro j hj
  rw [hmapped.2, List.mem_append, hm, partner_iff_meets hw.recorded]
  by_cases hmem : j.label ∈ ev.remove
  · exact Or.inl hmem
  · exact Or.inr ⟨hmem, j, rfl, hj⟩

theorem ids_withResolved (e : Entity) (hres : e.branches.resolved = .ok branches) :
    (e.withResolved branches).behavior.events.map Event.fullId =
      e.behavior.events.map Event.fullId := by
  obtain ⟨events, hstitched, heq⟩ := stitched_behavior hres
  rw [← hstitched.ids]
  simp only [withResolved, heq, Branch.resolveBehavior, List.map_map, Function.comp_def,
    Event.fullId_mapReferences]

theorem wired_progress (hw : Wired h e) (hp : Progress e e' added) : Wired (h ++ added) e' := by
  cases hp with
  | appended ha =>
    rw [List.append_nil]
    exact wired_appended hw ha
  | placed ha => exact wired_placed hw ha _
  | resolved hres =>
    refine ⟨recorded_progress hw.recorded (.resolved hres), ?_, ?_⟩
    · intro k
      rw [ids_withResolved e hres, List.append_nil, hw.ids]
    · intro k hk
      rw [List.append_nil] at hk ⊢
      obtain ⟨ev, hev, hwired, -⟩ := resolved_event hw hres hk
      exact ⟨ev, hev, hwired⟩

theorem wired_run (scope name : String) (o : Options) {ops : List Operation}
    (hops : ∀ op ∈ ops, op.SparesStates) :
    Wired (history (new scope name o) ops) (run (new scope name o) ops) :=
  run_induction (h := []) wired_progress (wired_new scope name o) hops

/-- After a run and a successful resolution, every accepted state has exactly one event, which
adds its group only and removes exactly the groups of the states next to it in the loop or
through a branch. Its own group is never among them. -/
theorem state_events_are_wired_exactly (scope name : String) (o : Options)
    {ops : List Operation} (hops : ∀ op ∈ ops, op.SparesStates)
    (h : resolveBranches.apply (run (new scope name o) ops) = (e', .ok ())) :
    (∀ s t, e'.branches.Connects s t ↔ Leads (history (new scope name o) ops) s t) ∧
    ∀ k : StateId, k.index < (history (new scope name o) ops).length →
      ∃ ev, e'.behavior.events.filter (·.fullId == k.label) = [ev] ∧ ev.add = [k.label] ∧
        ev.remove.Nodup ∧ k.label ∉ ev.remove ∧
        ∀ group, group ∈ ev.remove ↔ ∃ j : StateId, group = j.label ∧
          (Precedes (history (new scope name o) ops) k j ∨
            Meets (history (new scope name o) ops) k j) := by
  have hw := wired_run scope name o hops
  obtain ⟨branches, hres, rfl⟩ := resolve_ok h
  refine ⟨fun s t => hw.recorded.connects_iff_leads, fun k hk => ?_⟩
  obtain ⟨ev, hev, hwired, hmeets⟩ := resolved_event hw hres hk
  refine ⟨ev, filter_key_eq_singleton ?_ hev, hwired.add, hwired.nodup, ?_, fun group => ⟨?_, ?_⟩⟩
  · rw [ids_withResolved _ hres, hw.ids, if_pos hk]
  · intro hself
    obtain ⟨j, hj, hor⟩ := hwired.only _ hself
    exact hor.elim Precedes.ne Meets.ne (StateId.label_injective hj).symm
  · exact hwired.only group
  · rintro ⟨j, rfl, hp | hm⟩
    · exact hwired.preceding j hp
    · exact hmeets j hm

/-- Two states close the loop, one of them leads to itself, and the first of three resolutions
fails. The state with a command is refused. -/
def doublyClosedRun : List Operation := [
  .addEvent { id := "alarm", remove := ["state_0"] },
  .addLoopState { connections := ["hurt"] },
  .resolveBranches,
  .addLoopState { name := some "hurt", connections := ["hurt"], last := true },
  .resolveBranches,
  .addLoopState { entryCommands := some ["/say halt"] },
  .addLoopState { connections := ["hurt"], last := true }]

theorem doublyClosedRun_spares_states : ∀ op ∈ doublyClosedRun, op.SparesStates := by
  have halarm : ∀ id : StateId, ({ id := "alarm", remove := ["state_0"] } : Event).fullId ≠
      id.label := StateId.label_ne_of_unreserved (by decide +kernel)
  simp [doublyClosedRun, Operation.SparesStates, halarm]

theorem doubly_closed_run_wiring : (∀ op ∈ doublyClosedRun, op.SparesStates) ∧
    (history (new "dev" "Boss" {}) doublyClosedRun).length = 3 ∧ ∃ e' ev,
      resolveBranches.apply (run (new "dev" "Boss" {}) doublyClosedRun) = (e', .ok ()) ∧
      e'.behavior.events.filter (·.fullId == "state_1") = [ev] ∧ ev.add = ["state_1"] ∧
      ev.remove.Nodup ∧ "state_1" ∉ ev.remove ∧ "state_0" ∈ ev.remove ∧ "state_2" ∈ ev.remove := by
  have hlen : (history (new "dev" "Boss" {}) doublyClosedRun).length = 3 := by decide +kernel
  have hres : (run (new "dev" "Boss" {}) doublyClosedRun).branches.resolved =
      .ok [⟨"hurt", ⟨1⟩, [⟨0⟩, ⟨1⟩, ⟨2⟩]⟩] := by decide +kernel
  have hwiring := state_events_are_wired_exactly "dev" "Boss" {} doublyClosedRun_spares_states
    (resolve_eq hres)
  obtain ⟨ev, hev, hadd, hd, hself, hmem⟩ := hwiring.2 ⟨1⟩ (by rw [hlen]; decide)
  refine ⟨doublyClosedRun_spares_states, hlen, _, ev, resolve_eq hres, hev, hadd, hd, hself, ?_, ?_⟩
  · exact (hmem _).mpr ⟨⟨0⟩, rfl, Or.inl (.before rfl)⟩
  · refine (hmem _).mpr ⟨⟨2⟩, rfl, Or.inr ⟨by decide, Or.inl ((hwiring.1 ⟨2⟩ ⟨1⟩).mp ?_)⟩⟩
    exact ⟨⟨"hurt", some ⟨1⟩, [⟨0⟩, ⟨1⟩, ⟨2⟩]⟩, by decide +kernel, rfl, by decide⟩

end EntityPack.Entity
