import EntityPack.Proofs.Timer
import EntityPack.Proofs.Wiring
import Mathlib.Data.Finset.Dedup
import Mathlib.Data.Finset.SDiff

/-!
# The active loop state

The loop states of a resolved entity as a machine on sets of component groups. Whatever
fires while a state is active, its event takes the group of that state away and puts its own
in place, or there is no such event and nothing changes. So one state is active at a time.
-/
namespace EntityPack.Entity

inductive Fires (h : List Placed) (e : Entity) (k : StateId) : String → Prop where
  | expiry {p event} : h[k.index]? = some p → p.expiry? e = some event → Fires h e k event
  | next : Fires h e k k.next.label
  | closing : Accepted h k (·.last = true) → Fires h e k StateId.first.label
  | branch {t} : e.branches.Connects k t → Fires h e k t.label

/-- The active groups after an event: those it removes go, then those it adds come. -/
def fire (e : Entity) (event : String) (active : Finset String) : Finset String :=
  match e.behavior.event? event with
  | some ev => active \ ev.remove.toFinset ∪ ev.add.toFinset
  | none => active

inductive Active (h : List Placed) (e : Entity) : Finset String → Prop where
  | start : Active h e {StateId.first.label}
  | step {groups k event} : Active h e groups → k.label ∈ groups → Fires h e k event →
      Active h e (fire e event groups)

variable {h : List Placed} {e : Entity} {j k t : StateId} {event : String}
  {branches : List ResolvedBranch}

theorem Follows.adjacent (hf : Follows h k t) (hne : k ≠ t) : Precedes h t k ∨ Meets h t k := by
  cases hf with
  | next heq => exact Or.inl (.before heq)
  | closing heq hl =>
    rw [heq] at hne
    exact Or.inl (.closing heq (StateId.pos_of_ne_first hne) hl)
  | branch hl => exact Or.inr ⟨hne, Or.inl hl⟩

/-- Everything that fires is the event of a state that follows, whether it exists or not. -/
theorem fires_follows (hr : Recorded h e) (ht : Timed h e)
    (hres : e.branches.resolved = .ok branches) (hf : Fires h (e.withResolved branches) k event) :
    ∃ t : StateId, event = t.label ∧ Follows h k t := by
  cases hf with
  | @expiry p _ hp hx =>
    have hl : p.state.timer.isSome = true := by
      unfold Placed.expiry? at hx
      split at hx
      · assumption
      · cases hx
    obtain ⟨t, htimer, hfollows⟩ := timer_follows hr ht hres hp hl
    exact ⟨t, Option.some.inj (hx.symm.trans htimer), hfollows⟩
  | next => exact ⟨_, rfl, .next rfl⟩
  | closing hl => exact ⟨_, rfl, .closing rfl hl⟩
  | branch hc => exact ⟨_, rfl, .branch (hr.connects_iff_leads.mp hc)⟩

theorem fire_follows (hw : Wired h e) (hres : e.branches.resolved = .ok branches)
    (hf : Follows h k t) (hk : k.index < h.length) :
    ∃ j : StateId, j.index < h.length ∧
      fire (e.withResolved branches) t.label {k.label} = {j.label} := by
  unfold fire
  by_cases ht : t.index < h.length
  · obtain ⟨ev, hev, hwired, hmeets⟩ := resolved_event hw hres ht
    refine ⟨t, ht, ?_⟩
    -- If `k` and `t` are the same state, its group is added again.
    have hgone : k ≠ t → k.label ∈ ev.remove := fun hne =>
      (hf.adjacent hne).elim (hwired.preceding k) (hmeets k)
    ext group
    simp only [hev, hwired.add, Finset.mem_union, Finset.mem_sdiff, Finset.mem_singleton,
      List.mem_toFinset, List.mem_singleton]
    constructor
    · rintro (⟨rfl, hnot⟩ | hadd)
      · by_cases hne : k = t
        · rw [hne]
        · exact (hnot (hgone hne)).elim
      · exact hadd
    · exact Or.inr
  · have hnone : (e.withResolved branches).behavior.event? t.label = none := by
      rw [event?_none_iff, ids_withResolved e hres, hw.ids, if_neg ht]
    exact ⟨k, hk, by simp only [hnone]⟩

/-- On every run of a resolved entity, exactly one of its loop states is active. The timers
that drive the run are in place. -/
theorem exactly_one_state_is_active (scope name : String) (o : Options) {ops : List Operation}
    (hops : ∀ op ∈ ops, op.SparesStates) {e' : Entity}
    (h : resolveBranches.apply (run (new scope name o) ops) = (e', .ok ()))
    (hpos : 0 < (history (new scope name o) ops).length) :
    (∀ groups, Active (history (new scope name o) ops) e' groups →
      ∃ j : StateId, j.index < (history (new scope name o) ops).length ∧ groups = {j.label}) ∧
    ∀ (k : StateId) p, (history (new scope name o) ops)[k.index]? = some p →
      p.state.timer.isSome → ∃ t : StateId, p.expiry? e' = some t.label := by
  have hw := wired_run scope name o hops
  obtain ⟨hr, ht⟩ := timed_run scope name o hops
  obtain ⟨branches, hres, rfl⟩ := resolve_ok h
  constructor
  · intro groups hactive
    induction hactive with
    | start => exact ⟨.first, hpos, rfl⟩
    | @step groups k event _ hk hf ih =>
      obtain ⟨j, hj, rfl⟩ := ih
      obtain rfl : k = j := StateId.label_injective (Finset.mem_singleton.mp hk)
      obtain ⟨t, rfl, hfollows⟩ := fires_follows hr ht hres hf
      exact fire_follows hw hres hfollows hj
  · intro k p hp hl
    obtain ⟨t, hx, -⟩ := timer_follows hr ht hres hp hl
    exact ⟨t, hx⟩

/-- The timer of the first state skips the second. The last state leads to itself. -/
def redirectedRun : List Operation := [
  .addLoopState { timer := some 2, timerBranch := some "rage" },
  .addLoopState { timer := some 1, last := true },
  .addLoopState { name := some "rage", connections := ["rage"], timer := some 3, last := true }]

theorem redirected_timer_skips_a_state : (∀ op ∈ redirectedRun, op.SparesStates) ∧
    0 < (history (new "dev" "Boss" {}) redirectedRun).length ∧ ∃ e' groups,
      resolveBranches.apply (run (new "dev" "Boss" {}) redirectedRun) = (e', .ok ()) ∧
      Active (history (new "dev" "Boss" {}) redirectedRun) e' groups ∧ groups = {"state_2"} ∧
      ∃ j : StateId, j.index < (history (new "dev" "Boss" {}) redirectedRun).length ∧
        groups = {j.label} := by
  have hops : ∀ op ∈ redirectedRun, op.SparesStates := by
    simp [redirectedRun, Operation.SparesStates]
  have hpos : 0 < (history (new "dev" "Boss" {}) redirectedRun).length := by decide +kernel
  have hres : (run (new "dev" "Boss" {}) redirectedRun).branches.resolved =
      .ok [⟨"rage", ⟨2⟩, [⟨0⟩, ⟨2⟩]⟩] := by decide +kernel
  have hexpiry : (history (new "dev" "Boss" {}) redirectedRun)[0]?.bind (·.expiry?
      ((run (new "dev" "Boss" {}) redirectedRun).withResolved [⟨"rage", ⟨2⟩, [⟨0⟩, ⟨2⟩]⟩])) =
      some "state_2" := by decide +kernel
  obtain ⟨p, hp, hx⟩ := Option.bind_eq_some_iff.mp hexpiry
  have hactive := Active.step .start (k := .first) (Finset.mem_singleton_self _) (.expiry hp hx)
  exact ⟨hops, hpos, _, _, resolve_eq hres, hactive, by decide +kernel,
    (exactly_one_state_is_active "dev" "Boss" {} hops (resolve_eq hres) hpos).1 _ hactive⟩

end EntityPack.Entity
