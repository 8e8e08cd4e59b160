import EntityPack.Proofs.EventDocument
import EntityPack.Proofs.History
import EntityPack.Proofs.Removal
import EntityPack.Proofs.Wiring

/-!
# The wiring in the document

Closing the loop and stitching find the first event of an id, whoever added it. The document
shows the last one. Both are the same event as long as nobody adds another one of that id.
-/
namespace EntityPack

theorem Variables.render_empty {v : Variables} (h : v.isEmpty = true) (document : Json) :
    v.render document = .ok document := by
  rw [render, apply, if_pos h]

theorem Documents.traverse_ok (d : Documents) : d.traverse .ok = .ok d := by
  have hall : ∀ items : List Json, items.mapM (m := Except BuildError) .ok = .ok items := by
    intro items
    induction items with
    | nil => rfl
    | cons item items ih =>
      rw [List.mapM_cons, ih]
      rfl
  obtain ⟨behavior, resource, behaviors, renders, animations, sounds⟩ := d
  cases resource <;> cases animations <;> simp only [traverse, hall] <;> rfl

namespace Entity

theorem documents_of_empty {e : Entity} (h : e.bindings.isEmpty = true) :
    e.documents = .ok e.drafts := by
  have hrender : e.bindings.render = .ok := funext (Variables.render_empty h)
  rw [documents, hrender, Documents.traverse_ok]

/-- The event of state `k` has to remove the group of state `j`: a branch leads from one of
them to the other, or `j` closes the loop that begins with `k`. -/
inductive Due (h : List Placed) (r : Registry) : StateId → StateId → Prop where
  | entered {b s t} : b ∈ r → b.target = some t → s ∈ b.sources → s ≠ t → Due h r t s
  | left {b s t} : b ∈ r → b.target = some t → s ∈ b.sources → s ≠ t → Due h r s t
  | closing {j} : 0 < j.index → Accepted h j (·.last = true) → Due h r .first j

def FirstRemoves (e : Entity) (id group : String) : Prop :=
  ∃ ev, e.behavior.event? id = some ev ∧ group ∈ ev.remove

structure Keeps (e e' : Entity) : Prop where
  ids : ∃ ids, e'.eventIds = e.eventIds ++ ids
  removes : ∀ i (k : StateId), RemovesAt e.behavior.events i k.label →
    RemovesAt e'.behavior.events i k.label

variable {h added : List Placed} {e e' : Entity} {s : LoopState} {j k : StateId} {id group : String}
  {op : Operation} {branches : List ResolvedBranch}

theorem firstRemoves_iff : e.FirstRemoves id group ↔
    RemovesAt e.behavior.events (e.eventIds.idxOf id) group := by
  unfold FirstRemoves RemovesAt Behavior.event? eventIds
  rw [find?_key_eq_getElem?]

theorem Keeps.firstRemoves (hk : Keeps e e') (hf : e.FirstRemoves id k.label) :
    e'.FirstRemoves id k.label := by
  rw [firstRemoves_iff] at hf ⊢
  obtain ⟨ids, hids⟩ := hk.ids
  have hm : id ∈ e.eventIds := by
    obtain ⟨ev, hev, -⟩ := hf
    have hlt := (List.getElem?_eq_some_iff.mp hev).1
    rw [← List.idxOf_lt_length_iff, eventIds, List.length_map]
    exact hlt
  rw [hids, List.idxOf_append_of_mem hm]
  exact hk.removes _ k hf

theorem keeps_refl (e : Entity) : Keeps e e := ⟨⟨[], (List.append_nil _).symm⟩, fun _ _ h => h⟩

theorem keeps_withResolved (hs : e.branches.Sound) (hres : e.branches.resolved = .ok branches) :
    Keeps e (e.withResolved branches) where
  ids := ⟨[], by rw [List.append_nil, eventIds, ids_withResolved e hres, eventIds]⟩
  removes i k hr := by
    rw [removesAt_withResolved hs hres]
    exact Or.inl ⟨k.label, hr, Branch.substituteId_label hs hres k⟩

theorem keeps_after (hs : e.branches.Sound) (hop : op.KeepsIds) : Keeps e (after e op) := by
  have resolution : Keeps e (after e .resolveBranches) :=
    after_resolveBranches_of (keeps_refl e) fun _ hres => keeps_withResolved hs hres
  by_cases hr : op = .resolveBranches
  · rw [hr]
    exact resolution
  · by_cases hb : op = .build
    · rw [hb, after_build]
      exact resolution
    · have hsame : SameGains e.behavior.events (after e op).behavior.events e.behavior.events
          (after e op).behavior.events := sameGains_after (f := fun id => id) hop hr hb rfl
      obtain ⟨ids, gain, hgains, -⟩ := hsame
      exact ⟨⟨ids, hgains.ids⟩, fun i k hk => (hgains.removes i k.label).mpr (Or.inl hk)⟩

/-- Every accepted state has an event, and the first event of the first state removes the groups
of those that close the loop. -/
structure Closes (h : List Placed) (e : Entity) : Prop where
  present : ∀ k : StateId, k.index < h.length → k.label ∈ e.eventIds
  closing : ∀ j : StateId, 0 < j.index → Accepted h j (·.last = true) →
    e.FirstRemoves StateId.first.label j.label

theorem Closes.keeps (hc : Closes h e) (hk : Keeps e e') : Closes h e' where
  present k hlt := by
    obtain ⟨ids, hids⟩ := hk.ids
    rw [hids]
    exact List.mem_append_left _ (hc.present k hlt)
  closing j hpos hl := hk.firstRemoves (hc.closing j hpos hl)

theorem eventIds_withLoopState (s : LoopState) (e : Entity) :
    (e.withLoopState s).eventIds = e.eventIds ++ [e.nextState.label] :=
  ids_extend e.nextState s e.behavior

/-- A new state that closes the loop is removed by the event that bears the id of the first. -/
theorem firstRemoves_withLoopState (hl : s.last = true) (hne : e.nextState ≠ .first)
    (hm : StateId.first.label ∈ e.eventIds) :
    (e.withLoopState s).FirstRemoves StateId.first.label e.nextState.label := by
  have hfound : e.behavior.event? StateId.first.label ≠ none := by
    rw [ne_eq, event?_none_iff, List.count_eq_zero]
    exact fun hno => hno hm
  obtain ⟨ev, hev⟩ := Option.ne_none_iff_exists'.mp hfound
  refine ⟨ev.ensureRemoves e.nextState.label, ?_, ?_⟩
  · rw [event?_earlier s hev, if_pos ⟨rfl, hl, hne⟩]
  · exact (Event.mem_remove_ensureRemoves _ ev _).mpr (Or.inr (List.mem_singleton.mpr rfl))

theorem closes_withLoopState (hc : Closes h e) (hcount : e.stateCount = h.length)
    (hk : Keeps e (e.withLoopState s)) (group : Nat) :
    Closes (h ++ [⟨s, group⟩]) (e.withLoopState s) where
  present k hlt := by
    rw [List.length_append, List.length_singleton] at hlt
    rcases Nat.lt_succ_iff_lt_or_eq.mp hlt with hlt | hlast
    · exact (hc.keeps hk).present k hlt
    · obtain rfl : e.nextState = k := congrArg StateId.mk (hcount.trans hlast.symm)
      rw [eventIds_withLoopState]
      exact List.mem_append_right _ (List.mem_singleton.mpr rfl)
  closing j hpos hl := by
    rcases accepted_snoc.mp hl with hl | ⟨hj, hlast⟩
    · exact (hc.keeps hk).closing j hpos hl
    · obtain rfl : e.nextState = j := congrArg StateId.mk (hcount.trans hj.symm)
      refine firstRemoves_withLoopState hlast (fun hfirst => ?_) ?_
      · rw [hfirst] at hpos
        exact Nat.lt_irrefl 0 hpos
      · refine hc.present .first ?_
        rw [← hj]
        exact hpos

theorem closes_after (ha : Arranged h e) (hc : Closes h e) (hop : op.KeepsIds) :
    Closes (h ++ record e op) (after e op) := by
  have hk := keeps_after ha.recorded.sound hop
  rcases after_record e op with ⟨-, -, hrec⟩ | ⟨s, -, -, heq, hrec⟩
  · rw [hrec, List.append_nil]
    exact hc.keeps hk
  · rw [heq] at hk ⊢
    rw [hrec]
    exact closes_withLoopState hc ha.recorded.count hk _

theorem closes_run (scope name : String) (o : Options) {ops : List Operation}
    (hops : ∀ op ∈ ops, op.KeepsIds) :
    Closes (history (new scope name o) ops) (run (new scope name o) ops) := by
  have hstart : Closes [] (new scope name o) :=
    ⟨fun _ hk => (Nat.not_lt_zero _ hk).elim,
      fun _ _ hl => (Nat.not_lt_zero _ (accepted_bound hl)).elim⟩
  exact (history_induction (P := fun h e => Arranged h e ∧ Closes h e) (h := [])
    (fun hop hP => ⟨hP.1.after _, closes_after hP.1 hP.2 hop⟩)
    ⟨arranged_new scope name o, hstart⟩ hops).2

theorem Due.bound (hd : Due h e.branches k j) (hr : Recorded h e) : k.index < h.length := by
  have hentry : ∀ {b : Branch}, b ∈ e.branches → e.branches.entry b.name = b :=
    fun hb => Registry.entry_of_mem hr.sound.distinct hb
  cases hd with
  | entered hb ht _ _ =>
    rw [← hentry hb] at ht
    exact accepted_bound ((hr.target _ k).mp ht)
  | left hb _ hs _ =>
    rw [← hentry hb] at hs
    rw [← hr.count]
    exact hr.source_lt hs
  | closing _ hl => exact Nat.zero_lt_of_lt (accepted_bound hl)

/-- What is due is done by the first event of the id, once the branches are resolved. -/
theorem Due.done (hd : Due h e.branches k j) (hr : Recorded h e) (hc : Closes h e)
    (hres : e.branches.resolved = .ok branches) :
    (e.withResolved branches).FirstRemoves k.label j.label := by
  have stitched : e.branches.Partner k.label j.label →
      (e.withResolved branches).FirstRemoves k.label j.label := by
    intro hp
    have hm := hc.present k (hd.bound hr)
    have hids : (e.withResolved branches).eventIds = e.eventIds := ids_withResolved e hres
    rw [firstRemoves_iff, removesAt_withResolved hr.sound hres, hids]
    refine Or.inr ⟨k.label, ?_, rfl, hp⟩
    rw [List.getElem?_eq_getElem (List.idxOf_lt_length_iff.mpr hm), List.getElem_idxOf]
  cases hd with
  | entered hb ht hs hne => exact stitched ⟨j, k, ⟨_, hb, ht, hs⟩, hne, Or.inl ⟨rfl, rfl⟩⟩
  | left hb ht hs hne => exact stitched ⟨k, j, ⟨_, hb, ht, hs⟩, hne, Or.inr ⟨rfl, rfl⟩⟩
  | closing hpos hl =>
    exact (keeps_withResolved hr.sound hres).firstRemoves (hc.closing j hpos hl)

theorem lastEvent?_of_mem {b : Behavior} (hm : id ∈ b.events.map Event.fullId) :
    ∃ ev, b.lastEvent? id = some ev := by
  obtain ⟨ev, hev, hid⟩ := List.mem_map.mp hm
  refine Option.isSome_iff_exists.mp (List.find?_isSome.mpr ⟨ev, ?_, beq_iff_eq.mpr hid⟩)
  exact List.mem_reverse.mpr hev

theorem lastEvent?_of_once {b : Behavior} (hone : (b.events.map Event.fullId).count id = 1)
    {ev : Event} (hev : b.event? id = some ev) : b.lastEvent? id = some ev := by
  have hfilter := filter_key_eq_singleton hone hev
  rw [Behavior.lastEvent?, ← List.head?_filter, List.filter_reverse, hfilter]
  rfl

theorem spawn_ne_label (k : StateId) : k.label ≠ Behavior.bareSpawnEvent.fullId :=
  Ne.symm (StateId.label_ne_of_unreserved (by decide +kernel) k)

/-- After a run and a successful build without bindings, the first event of every state removes
the groups that are due, and the entry of the state shows its last event. So the entry shows
what is due if the id is borne once, in particular if every other event spares the states. -/
theorem entries_show_last_events (scope name : String) (o : Options) {ops : List Operation}
    (hops : ∀ op ∈ ops, op.KeepsIds)
    (hempty : (run (new scope name o) ops).bindings.isEmpty = true) {documents : Documents}
    (hok : build.apply (run (new scope name o) ops) = (e', .ok documents)) :
    (∀ k j, Due (history (new scope name o) ops) (run (new scope name o) ops).branches k j →
      ∃ ev, e'.behavior.event? k.label = some ev ∧ j.label ∈ ev.remove) ∧
    (∀ k : StateId, k.index < (history (new scope name o) ops).length → ∃ ev,
      e'.behavior.lastEvent? k.label = some ev ∧
      documents.behavior.eventObject? k.label = some ev.toJson ∧
      ∀ group, Json.RemovesGroup group ev.toJson ↔
        group ∈ ev.remove ∨ ∃ sub ∈ ev.sequential, Json.RemovesGroup group sub.toJson) ∧
    (∀ k j, Due (history (new scope name o) ops) (run (new scope name o) ops).branches k j →
      e'.eventIds.count k.label = 1 → ∃ entry,
        documents.behavior.eventObject? k.label = some entry ∧
        Json.RemovesGroup j.label entry) ∧
    ((∀ op ∈ ops, op.SparesStates) →
      ∀ k j, Due (history (new scope name o) ops) (run (new scope name o) ops).branches k j →
        ∃ entry, documents.behavior.eventObject? k.label = some entry ∧
          Json.RemovesGroup j.label entry) := by
  have hr := (arranged_run scope name o ops).recorded
  have hc := closes_run scope name o hops
  obtain ⟨hresolve, hdocuments⟩ := build_ok hok
  obtain ⟨branches, hres, rfl⟩ := resolve_ok hresolve
  have hplain : ((run (new scope name o) ops).withResolved branches).bindings.isEmpty = true :=
    hempty
  have hdrafts : ((run (new scope name o) ops).withResolved branches).drafts = documents :=
    Except.ok.inj ((documents_of_empty hplain).symm.trans hdocuments)
  have hentry : ∀ k : StateId, documents.behavior.eventObject? k.label =
      (((run (new scope name o) ops).withResolved branches).behavior.lastEvent? k.label).map
        Event.toJson := by
    intro k
    rw [← hdrafts]
    exact Behavior.eventObject?_document _ _ (spawn_ne_label k)
  have hdone : ∀ k j, Due (history (new scope name o) ops)
      (run (new scope name o) ops).branches k j → _ := fun k j hd => hd.done hr hc hres
  have hshown : ∀ k j, Due (history (new scope name o) ops)
      (run (new scope name o) ops).branches k j →
      ((run (new scope name o) ops).withResolved branches).eventIds.count k.label = 1 →
      ∃ entry, documents.behavior.eventObject? k.label = some entry ∧
        Json.RemovesGroup j.label entry := by
    intro k j hd hone
    obtain ⟨ev, hev, hremove⟩ := hdone k j hd
    refine ⟨ev.toJson, ?_, ev.removesGroup_toJson.mpr (Or.inl hremove)⟩
    rw [hentry, lastEvent?_of_once hone hev, Option.map_some]
  refine ⟨hdone, fun k hk => ?_, hshown, fun hspares k j hd => hshown k j hd ?_⟩
  · obtain ⟨ev, hev⟩ :=
      lastEvent?_of_mem ((hc.keeps (keeps_withResolved hr.sound hres)).present k hk)
    exact ⟨ev, hev, by rw [hentry, hev, Option.map_some], fun _ => ev.removesGroup_toJson⟩
  · have hids := (wired_run scope name o hspares).ids k
    rw [if_pos (hd.bound hr)] at hids
    rw [eventIds, ids_withResolved _ hres]
    exact hids

def otherEventRun : List Operation := [
  .addEvent { id := "alarm", remove := ["state_0"] },
  .addLoopState { connections := ["hurt"] },
  .addLoopState { name := some "hurt" },
  .addLoopState { last := true }]

theorem other_event_leaves_wiring_shown : (∀ op ∈ otherEventRun, op.KeepsIds) ∧
    (∀ op ∈ otherEventRun, op.SparesStates) ∧
    (run (new "dev" "Boss" {}) otherEventRun).bindings.isEmpty = true ∧ ∃ e' documents,
      build.apply (run (new "dev" "Boss" {}) otherEventRun) = (e', .ok documents) ∧
      ∃ entry, documents.behavior.eventObject? "state_0" = some entry ∧
        Json.RemovesGroup "state_1" entry ∧ Json.RemovesGroup "state_2" entry := by
  have hkeeps : ∀ op ∈ otherEventRun, op.KeepsIds := by simp [otherEventRun, Operation.KeepsIds]
  have halarm : ∀ id : StateId, ({ id := "alarm", remove := ["state_0"] } : Event).fullId ≠
      id.label := StateId.label_ne_of_unreserved (by decide +kernel)
  have hspares : ∀ op ∈ otherEventRun, op.SparesStates := by
    simp [otherEventRun, Operation.SparesStates, halarm]
  have hempty : (run (new "dev" "Boss" {}) otherEventRun).bindings.isEmpty = true := by
    decide +kernel
  have hbranches : (run (new "dev" "Boss" {}) otherEventRun).branches =
      [⟨"hurt", some ⟨1⟩, [⟨0⟩]⟩] := by
    decide +kernel
  have hres : (run (new "dev" "Boss" {}) otherEventRun).branches.resolved =
      .ok [⟨"hurt", ⟨1⟩, [⟨0⟩]⟩] := by
    decide +kernel
  have hbuild : build.apply (run (new "dev" "Boss" {}) otherEventRun) = (_, .ok _) :=
    (build_resolved (resolve_eq hres)).trans (congrArg (Prod.mk _) (documents_of_empty hempty))
  obtain ⟨-, -, -, hshown⟩ := entries_show_last_events "dev" "Boss" {} hkeeps hempty hbuild
  have hconnected : Due (history (new "dev" "Boss" {}) otherEventRun)
      (run (new "dev" "Boss" {}) otherEventRun).branches ⟨0⟩ ⟨1⟩ := by
    rw [hbranches]
    exact .left (List.mem_singleton.mpr rfl) rfl (List.mem_singleton.mpr rfl) (by decide)
  have hlast : (history (new "dev" "Boss" {}) otherEventRun)[2]?.map (·.state.last) =
      some true := by
    decide +kernel
  have hcloses : Accepted (history (new "dev" "Boss" {}) otherEventRun) ⟨2⟩ (·.last = true) :=
    Option.map_eq_some_iff.mp hlast
  obtain ⟨entry, hentry, hremoves⟩ := hshown hspares ⟨0⟩ ⟨1⟩ hconnected
  obtain ⟨entry', hentry', hremoves'⟩ := hshown hspares .first ⟨2⟩ (.closing (by decide) hcloses)
  obtain rfl : entry = entry' := Option.some.inj (hentry.symm.trans hentry')
  exact ⟨hkeeps, hspares, hempty, _, _, hbuild, entry, hentry, hremoves, hremoves'⟩

/-- The event that is added last bears the id of the first state. -/
def shadowedRun : List Operation := [
  .addLoopState { connections := ["hurt"] },
  .addLoopState { name := some "hurt" },
  .addEvent { id := "state_0" }]

/-- An event that is added under the id of a state hides the wiring of that state. -/
theorem shadowing_event_hides_the_wiring : (∀ op ∈ shadowedRun, op.KeepsIds) ∧
    (run (new "dev" "Boss" {}) shadowedRun).bindings.isEmpty = true ∧
    ⟨"hurt", some ⟨1⟩, [⟨0⟩]⟩ ∈ (run (new "dev" "Boss" {}) shadowedRun).branches ∧
    ∃ e' documents, build.apply (run (new "dev" "Boss" {}) shadowedRun) = (e', .ok documents) ∧
      ∃ entry, documents.behavior.eventObject? "state_0" = some entry ∧
        ¬ Json.RemovesGroup "state_1" entry := by
  have hempty : (run (new "dev" "Boss" {}) shadowedRun).bindings.isEmpty = true := by decide +kernel
  have hres : (run (new "dev" "Boss" {}) shadowedRun).branches.resolved =
      .ok [⟨"hurt", ⟨1⟩, [⟨0⟩]⟩] := by decide +kernel
  have hbuild : build.apply (run (new "dev" "Boss" {}) shadowedRun) = (_, .ok _) :=
    (build_resolved (resolve_eq hres)).trans (congrArg (Prod.mk _) (documents_of_empty hempty))
  have hshown : (((run (new "dev" "Boss" {}) shadowedRun).withResolved
      [⟨"hurt", ⟨1⟩, [⟨0⟩]⟩]).behavior.lastEvent? "state_0").map
        (fun ev => (ev.remove, ev.sequential.length)) = some ([], 0) := by decide +kernel
  obtain ⟨ev, hev, hbare⟩ := Option.map_eq_some_iff.mp hshown
  obtain ⟨hremove, hsequential⟩ := Prod.mk.inj hbare
  refine ⟨by simp [shadowedRun, Operation.KeepsIds], hempty, by decide +kernel, _, _, hbuild,
    ev.toJson, ?_, ?_⟩
  · have hentry := Behavior.eventObject?_document
      ((run (new "dev" "Boss" {}) shadowedRun).withResolved
        [⟨"hurt", ⟨1⟩, [⟨0⟩]⟩]).versions.behavior
      ((run (new "dev" "Boss" {}) shadowedRun).withResolved [⟨"hurt", ⟨1⟩, [⟨0⟩]⟩]).behavior
      (spawn_ne_label ⟨0⟩)
    have hlabel : StateId.label ⟨0⟩ = "state_0" := by decide +kernel
    rw [hlabel, hev, Option.map_some] at hentry
    exact hentry
  · rw [ev.removesGroup_toJson, hremove, List.eq_nil_of_length_eq_zero hsequential]
    simp

end Entity
end EntityPack
