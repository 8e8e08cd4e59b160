import EntityPack.Proofs.History
import EntityPack.Proofs.Resolution

/-!
# The timers of loop states

The timer of a loop state stays where it was put, second in its component group. Its expiry
event may be a branch name until resolution replaces it; then it is the id of a state that
the loop or a branch leads to.
-/
namespace EntityPack

namespace Json

theorem mapText_ofFloat (f : String → String) (value : Float) :
    (ofFloat value).mapText f = ofFloat value := by
  unfold ofFloat
  split <;> rfl

end Json

namespace Component

theorem mapText_timer (f : String → String) (length : Float) (event : String) :
    (timer length event).mapText f = timer length (f event) := by
  simp only [timer, mapText, expiry, Json.mapTextFields, Json.mapText, Json.mapText_ofFloat]

theorem timerEvent?_timer (length : Float) (event : String) :
    (timer length event).timerEvent? = some event := by
  simp [timerEvent?, timer, expiry, Entries.get?, Json.get?, Json.text?]

end Component

namespace Entity

def TimerAt (e : Entity) (p : Placed) (length : Float) (event : String) : Prop :=
  ∃ g, e.behavior.groups[p.group]? = some g ∧ g.components[1]? = some (.timer length event)

def Placed.expiry? (p : Placed) (e : Entity) : Option String :=
  if p.state.timer.isSome then
    (e.behavior.groups[p.group]?.bind (·.components[1]?)).bind Component.timerEvent?
  else none

inductive Follows (h : List Placed) (k t : StateId) : Prop where
  | next : t = k.next → Follows h k t
  | closing : t = .first → Accepted h k (·.last = true) → Follows h k t
  | branch : Leads h k t → Follows h k t

/-- The expiry event is as it was generated, or its branch name has been replaced. -/
def Expires (h : List Placed) (k : StateId) (s : LoopState) (event : String) : Prop :=
  event = s.expiryEvent k ∨
    ∃ name t, s.timerBranch = some name ∧ Named h name t ∧ event = t.label

def Timed (h : List Placed) (e : Entity) : Prop :=
  ∀ (k : StateId) p length, h[k.index]? = some p → p.state.timer = some length →
    ∃ event, TimerAt e p length event ∧ Expires h k p.state event

variable {h added : List Placed} {e e' : Entity} {k : StateId} {p : Placed} {s : LoopState}
  {length : Float} {event : String} {branches : List ResolvedBranch}

theorem Placed.expiry?_of_timerAt (ht : p.state.timer = some length)
    (hat : TimerAt e p length event) : p.expiry? e = some event := by
  obtain ⟨g, hg, hc⟩ := hat
  simp [Placed.expiry?, ht, hg, hc, Component.timerEvent?_timer]

theorem TimerAt.append {groups : List ComponentGroup} (hat : TimerAt e p length event)
    (hg : e'.behavior.groups = e.behavior.groups ++ groups) : TimerAt e' p length event := by
  obtain ⟨g, hget, hc⟩ := hat
  refine ⟨g, ?_, hc⟩
  rw [hg, List.getElem?_append_left (List.getElem?_eq_some_iff.mp hget).1]
  exact hget

theorem TimerAt.resolve (hat : TimerAt e p length event) :
    TimerAt (e.withResolved branches) p length (Branch.substituteId branches event) := by
  obtain ⟨g, hget, hc⟩ := hat
  refine ⟨g.mapText (Branch.substituteId branches), ?_, ?_⟩
  · simp only [withResolved, Branch.resolveBehavior, List.getElem?_map]
    rw [Branch.stitchAll_eq, Branch.sewn, hget]
    rfl
  · rw [ComponentGroup.mapText, List.getElem?_map, hc, Option.map_some, Component.mapText_timer]

theorem Expires.append (hx : Expires h k s event) : Expires (h ++ added) k s event := by
  rcases hx with hx | ⟨name, t, hb, hn, heq⟩
  · exact Or.inl hx
  · exact Or.inr ⟨name, t, hb, accepted_append hn, heq⟩

theorem mentions_timerBranch (hp : h[k.index]? = some p) (ht : p.state.timer = some length)
    {name : String} (hb : p.state.timerBranch = some name) : Mentions h k name := by
  refine ⟨p, hp, ?_⟩
  simp [LoopState.leadsTo, ht, hb]

/-- A name that some state mentions is replaced by the state it stands for. -/
theorem Recorded.resolved_name (hr : Recorded h e) (hres : e.branches.resolved = .ok branches)
    {name : String} (hm : Mentions h k name) :
    ∃ t : StateId, Branch.substituteId branches name = t.label ∧ Named h name t := by
  have hb := hr.entry_mem hm
  obtain ⟨t, ht, -⟩ := Registry.resolved_target hres hb
  have hsub := Branch.substituteId_name hr.sound hres hb ht
  rw [Registry.name_entry] at hsub
  exact ⟨t, hsub, (hr.target name t).mp ht⟩

/-- After resolution a timer leads to a state. -/
theorem Expires.resolve (hr : Recorded h e) (hres : e.branches.resolved = .ok branches)
    (hp : h[k.index]? = some p) (ht : p.state.timer = some length)
    (hx : Expires h k p.state event) :
    ∃ t : StateId, Branch.substituteId branches event = t.label ∧ Follows h k t ∧
      Expires h k p.state t.label := by
  have hlabel := Branch.substituteId_label hr.sound hres
  -- An earlier resolution may have put the id of a state in place already.
  rcases hx with rfl | ⟨name, t, hb, hn, rfl⟩
  · cases hb : p.state.timerBranch with
    | none =>
      by_cases hl : p.state.last = true
      · have hevent : p.state.expiryEvent k = StateId.first.label := by
          simp [LoopState.expiryEvent, hb, hl]
        rw [hevent]
        exact ⟨.first, hlabel _, .closing rfl ⟨p, hp, hl⟩, Or.inl hevent.symm⟩
      · have hevent : p.state.expiryEvent k = k.next.label := by
          simp [LoopState.expiryEvent, hb, hl]
        rw [hevent]
        exact ⟨k.next, hlabel _, .next rfl, Or.inl hevent.symm⟩
    | some name =>
      have hevent : p.state.expiryEvent k = name := by simp [LoopState.expiryEvent, hb]
      have hm := mentions_timerBranch hp ht hb
      obtain ⟨t, hsub, hn⟩ := hr.resolved_name hres hm
      rw [hevent]
      exact ⟨t, hsub, .branch ⟨name, hm, hn⟩, Or.inr ⟨name, t, hb, hn, rfl⟩⟩
  · have hm := mentions_timerBranch hp ht hb
    exact ⟨t, hlabel t, .branch ⟨name, hm, hn⟩, Or.inr ⟨name, t, hb, hn, rfl⟩⟩

theorem timed_new (scope name : String) (o : Options) : Timed [] (new scope name o) := by
  intro k p length hp
  cases hp

theorem timed_placed (hr : Recorded h e) (ht : Timed h e) :
    Timed (h ++ [⟨s, e.behavior.groups.length⟩]) (e.withLoopState s) := by
  have hgroups : (e.withLoopState s).behavior.groups =
      e.behavior.groups ++ [s.group e.nextState] := rfl
  intro k p length hp hl
  rcases getElem?_snoc hp with hp | ⟨hk, rfl⟩
  · obtain ⟨event, hat, hx⟩ := ht k p length hp hl
    exact ⟨event, hat.append hgroups, hx.append⟩
  · obtain rfl : e.nextState = k := congrArg StateId.mk (hr.count.trans hk.symm)
    refine ⟨s.expiryEvent e.nextState, ⟨s.group e.nextState, by simp [hgroups], ?_⟩, Or.inl rfl⟩
    have hl : s.timer = some length := hl
    simp [LoopState.group, hl]

theorem timed_progress (hr : Recorded h e) (ht : Timed h e) (hp : Progress e e' added) :
    Timed (h ++ added) e' := by
  cases hp with
  | appended ha =>
    obtain ⟨groups, hgroups⟩ := ha.groups
    intro k p length hp hl
    rw [List.append_nil] at hp ⊢
    obtain ⟨event, hat, hx⟩ := ht k p length hp hl
    exact ⟨event, hat.append hgroups, hx⟩
  | placed _ => exact timed_placed hr ht
  | resolved hres =>
    intro k p length hp hl
    rw [List.append_nil] at hp ⊢
    obtain ⟨event, hat, hx⟩ := ht k p length hp hl
    obtain ⟨t, hsub, -, hx⟩ := hx.resolve hr hres hp hl
    exact ⟨t.label, hsub ▸ hat.resolve, hx⟩

theorem timed_run (scope name : String) (o : Options) {ops : List Operation}
    (hops : ∀ op ∈ ops, op.SparesStates) :
    Recorded (history (new scope name o) ops) (run (new scope name o) ops) ∧
      Timed (history (new scope name o) ops) (run (new scope name o) ops) :=
  run_induction (h := []) (P := fun h e => Recorded h e ∧ Timed h e)
    (fun hP hp => ⟨recorded_progress hP.1 hp, timed_progress hP.1 hP.2 hp⟩)
    ⟨recorded_new scope name o, timed_new scope name o⟩ hops

/-- After resolution every timer fires the event of a state that follows its own. -/
theorem timer_follows (hr : Recorded h e) (ht : Timed h e)
    (hres : e.branches.resolved = .ok branches) (hp : h[k.index]? = some p)
    (hl : p.state.timer.isSome) :
    ∃ t : StateId, p.expiry? (e.withResolved branches) = some t.label ∧ Follows h k t := by
  obtain ⟨length, hl⟩ := Option.isSome_iff_exists.mp hl
  obtain ⟨event, hat, hx⟩ := ht k p length hp hl
  obtain ⟨t, hsub, hfollows, -⟩ := hx.resolve hr hres hp hl
  exact ⟨t, Placed.expiry?_of_timerAt hl (hsub ▸ hat.resolve), hfollows⟩

end Entity
end EntityPack
