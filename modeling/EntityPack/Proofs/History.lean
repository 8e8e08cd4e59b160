import EntityPack.Proofs.Registry
import EntityPack.Proofs.Run
import Mathlib.Data.List.Find

/-!
# The registry and the history

The registry of a run is determined by its history. Names stand in the order of their first mention.
The target of a name is the loop state that was accepted under it, and its sources are the states
that mention it, in the order in which they came. One name never gets two targets, because the
second state is refused, which leaves no trace. Resolution fails at the first mention of a name
without target.
-/
namespace EntityPack

theorem find?_append_again {α : Type} {p : α → Bool} {as : List α} {a : α} (h : a ∈ as) :
    (as ++ [a]).find? p = as.find? p := by
  rw [List.find?_append]
  cases hf : as.find? p with
  | some b => rfl
  | none =>
    have ha := List.find?_eq_none.mp hf a h
    simp [ha]

theorem find?_flatMap_append {α β : Type} {p : β → Bool} {f g : α → List β} {as : List α}
    (h : ∀ a ∈ as, ∀ b ∈ f a, p b = false) :
    (as.flatMap fun a => f a ++ g a).find? p = (as.flatMap g).find? p := by
  induction as with
  | nil => rfl
  | cons a as ih =>
    have hnone : (f a).find? p = none := by
      rw [List.find?_eq_none]
      intro b hb
      rw [h a (by simp) b hb]
      exact Bool.false_ne_true
    rw [List.flatMap_cons, List.flatMap_cons, List.append_assoc, List.find?_append, hnone,
      Option.none_or, List.find?_append, List.find?_append, ih fun c hc => h c (by simp [hc])]

/-- Distinct elements that are found like the elements of another list are those elements,
each at its first place. -/
theorem eq_eraseDups_of_find? {α : Type} [DecidableEq α] {as bs : List α} (hd : as.Nodup)
    (h : ∀ p : α → Bool, as.find? p = bs.find? p) : as = bs.eraseDups := by
  -- The other list gets shorter by all occurrences of its first element.
  induction hn : bs.length using Nat.strong_induction_on generalizing as bs with
  | h n ih =>
    have hfirst := h fun _ => true
    cases bs with
    | nil =>
      cases as with
      | nil => rfl
      | cons a as => cases hfirst
    | cons b bs =>
      cases as with
      | nil => cases hfirst
      | cons a as =>
        obtain rfl : a = b := Option.some.inj hfirst
        obtain ⟨ha, hd⟩ := List.nodup_cons.mp hd
        have hlen : (bs.filter fun b => !b == a).length < n := by
          rw [← hn, List.length_cons]
          exact Nat.lt_succ_of_le (List.length_filter_le _ _)
        rw [List.eraseDups_cons, ih _ hlen hd (fun p => ?_) rfl]
        have hrest := h fun b => !b == a && p b
        have hother : as.find? (fun b => !b == a && p b) = as.find? p := by
          refine List.find?_congr fun c hc => ?_
          have hne : c ≠ a := fun heq => ha (heq ▸ hc)
          simp [hne]
        simp only [List.find?_cons, beq_self_eq_true, Bool.not_true, Bool.false_and] at hrest
        rw [List.find?_filter, ← hother, hrest]
        exact List.find?_congr fun c _ => by simp [beq_eq_decide]

namespace Registry

variable {r : Registry} {p : String → Bool} {names mentioned : List String} {state : StateId}

/-- The names of the registry stand in the order of the first mentions in `mentioned`. -/
def InOrder (mentioned : List String) (r : Registry) : Prop :=
  ∀ p : String → Bool, (r.map Branch.name).find? p = mentioned.find? p

theorem InOrder.names_eq (h : r.InOrder mentioned) (hd : (r.map Branch.name).Nodup) :
    r.map Branch.name = mentioned.eraseDups :=
  eq_eraseDups_of_find? hd h

theorem InOrder.update (h : r.InOrder mentioned) (name : String) {f : Branch → Branch}
    (hf : ∀ b, (f b).name = b.name) : (r.update name f).InOrder (mentioned ++ [name]) := by
  intro p
  rw [names_update hf, List.find?_append, ← h p, ← List.find?_append]
  split
  · rename_i hm
    exact (find?_append_again hm).symm
  · rfl

theorem InOrder.bind (h : r.InOrder mentioned) (name : Option String) (state : StateId) :
    (r.bind name state).InOrder (mentioned ++ name.toList) := by
  cases name with
  | none =>
    rw [Option.toList_none, List.append_nil]
    exact h
  | some name => exact h.update name fun _ => rfl

theorem InOrder.addSources (h : r.InOrder mentioned) (names : List String) (state : StateId) :
    (r.addSources names state).InOrder (mentioned ++ names) := by
  induction names generalizing r mentioned with
  | nil =>
    rw [List.append_nil]
    exact h
  | cons name names ih =>
    have hrest := ih (h.update name (name_withSource state))
    rw [List.append_assoc] at hrest
    exact hrest

theorem sources_bind (name : Option String) (state : StateId) (r : Registry) (n : String) :
    (entry n (bind name state r)).sources = (entry n r).sources := by
  rw [entry_bind]
  split <;> rfl

theorem sources_withSource (state : StateId) (b : Branch) :
    (withSource state b).sources = b.sources ++ if state ∈ b.sources then [] else [state] := by
  unfold withSource
  by_cases h : state ∈ b.sources
  · simp [h]
  · simp [h]

/-- A state that mentions a name, however often, is put behind the other sources once. -/
theorem sources_addSources (names : List String) (state : StateId) (r : Registry) (n : String) :
    (entry n (r.addSources names state)).sources = (entry n r).sources ++
      if n ∈ names ∧ state ∉ (entry n r).sources then [state] else [] := by
  induction names generalizing r with
  | nil => simp [addSources]
  | cons name names ih =>
    have hstep : (r.addSources (name :: names) state) =
        (r.addSource name state).addSources names state := rfl
    rw [hstep, ih, addSource_eq, entry_update (name_withSource state)]
    by_cases hn : n = name
    · rw [if_pos hn, sources_withSource, hn]
      by_cases hs : state ∈ (entry name r).sources
      · simp [hs]
      · simp [hs]
    · simp [hn]

/-- A registry resolves unless some branch has no target; the first one is the error. -/
theorem resolved_error {c : BuildError} : r.resolved = .error c ↔
    ∃ b, r.find? (·.target.isNone) = some b ∧
      c = .unresolvedBranch b.name (b.sources.map StateId.label) := by
  induction r with
  | nil =>
    constructor
    · intro h
      cases h
    · rintro ⟨b, hb, -⟩
      cases hb
  | cons b r ih =>
    obtain ⟨name, target, sources⟩ := b
    cases target with
    | none =>
      rw [resolved_cons_none, List.find?_cons_of_pos (by rfl)]
      constructor
      · intro h
        exact ⟨_, rfl, (Except.error.inj h).symm⟩
      · rintro ⟨b, hb, rfl⟩
        rw [← Option.some.inj hb]
    | some t =>
      rw [resolved_cons_some, List.find?_cons_of_neg (by simp), ← ih]
      cases resolved r with
      | ok branches => simp [Except.map]
      | error cause => simp [Except.map]

/-- The first branch without target is found under the first name without target. -/
theorem find?_target (h : Sound r) (ho : r.InOrder mentioned) {b : Branch} :
    r.find? (·.target.isNone) = some b ↔
      ∃ n, mentioned.find? (fun n => (entry n r).target.isNone) = some n ∧ b = entry n r := by
  have hmember : ∀ b ∈ r, (entry b.name r).target.isNone = b.target.isNone := by
    intro b hb
    rw [entry_of_mem h.distinct hb]
  have hfind : r.find? (fun b => (entry b.name r).target.isNone) = r.find? (·.target.isNone) :=
    List.find?_congr hmember
  rw [← ho, List.find?_map, Function.comp_def, hfind]
  constructor
  · intro hb
    refine ⟨b.name, by rw [hb]; rfl, ?_⟩
    rw [entry_of_mem h.distinct (List.mem_of_find?_eq_some hb)]
  · rintro ⟨n, hn, rfl⟩
    obtain ⟨b, hb, rfl⟩ := Option.map_eq_some_iff.mp hn
    rw [hb, entry_of_mem h.distinct (List.mem_of_find?_eq_some hb)]

end Registry

namespace Entity

def Accepted (h : List Placed) (id : StateId) (P : LoopState → Prop) : Prop :=
  ∃ p, h[id.index]? = some p ∧ P p.state

def Named (h : List Placed) (name : String) (id : StateId) : Prop :=
  Accepted h id fun s => s.name = some name

def Mentions (h : List Placed) (id : StateId) (name : String) : Prop :=
  Accepted h id fun s => name ∈ s.leadsTo

def Leads (h : List Placed) (source target : StateId) : Prop :=
  ∃ name, Mentions h source name ∧ Named h name target

structure Recorded (h : List Placed) (e : Entity) : Prop where
  count : e.stateCount = h.length
  sound : e.branches.Sound
  target : ∀ name t, (e.branches.entry name).target = some t ↔ Named h name t
  sources : ∀ name s, s ∈ (e.branches.entry name).sources ↔ Mentions h s name

variable {h added : List Placed} {e e' : Entity} {id : StateId} {P : LoopState → Prop}

theorem accepted_bound (ha : Accepted h id P) : id.index < h.length := by
  obtain ⟨p, hp, -⟩ := ha
  exact (List.getElem?_eq_some_iff.mp hp).1

theorem accepted_snoc {p : Placed} :
    Accepted (h ++ [p]) id P ↔ Accepted h id P ∨ (id.index = h.length ∧ P p.state) := by
  unfold Accepted
  rcases Nat.lt_trichotomy id.index h.length with hlt | heq | hgt
  · simp [List.getElem?_append_left hlt, Nat.ne_of_lt hlt]
  · simp [heq]
  · have hnone : (h ++ [p])[id.index]? = none := by
      rw [List.getElem?_eq_none_iff, List.length_append, List.length_singleton]
      exact hgt
    simp [hnone, List.getElem?_eq_none (Nat.le_of_lt hgt), Nat.ne_of_gt hgt]

theorem accepted_append (ha : Accepted h id P) : Accepted (h ++ added) id P := by
  obtain ⟨p, hp, hP⟩ := ha
  refine ⟨p, ?_, hP⟩
  rw [List.getElem?_append_left (List.getElem?_eq_some_iff.mp hp).1]
  exact hp

theorem Leads.append {s t : StateId} (hl : Leads h s t) : Leads (h ++ added) s t := by
  obtain ⟨name, hs, ht⟩ := hl
  exact ⟨name, accepted_append hs, accepted_append ht⟩

theorem Recorded.connects_iff_leads (hr : Recorded h e) {s t : StateId} :
    e.branches.Connects s t ↔ Leads h s t := by
  rw [Registry.connects_iff hr.sound]
  constructor
  · rintro ⟨name, ht, hs⟩
    exact ⟨name, (hr.sources name s).mp hs, (hr.target name t).mp ht⟩
  · rintro ⟨name, hs, ht⟩
    exact ⟨name, (hr.target name t).mpr ht, (hr.sources name s).mpr hs⟩

theorem Recorded.entry_mem (hr : Recorded h e) {name : String} (hm : Mentions h id name) :
    e.branches.entry name ∈ e.branches := by
  refine (Registry.entry_mem_or_blank name e.branches).resolve_right fun hblank => ?_
  have hs := (hr.sources name id).mpr hm
  rw [hblank] at hs
  cases hs

theorem recorded_blank (hc : e.stateCount = 0) (hb : e.branches = []) : Recorded [] e where
  count := hc
  sound := hb ▸ Registry.sound_nil
  target name t := by simp [Named, Accepted, Registry.entry, Registry.get?, hb]
  sources name s := by simp [Mentions, Accepted, Registry.entry, Registry.get?, hb]

theorem recorded_new (scope name : String) (o : Options) : Recorded [] (new scope name o) :=
  recorded_blank rfl rfl

/-- The name of an acceptable state is free, since no accepted state has the next id. -/
theorem Recorded.name_free (hr : Recorded h e) {s : LoopState} (ha : Acceptable s e)
    {name : String} (hn : s.name = some name) (t : StateId) : ¬ Named h name t := by
  intro ht
  have htarget := Registry.checkTarget_ok.mp (ha.target name hn) t ((hr.target name t).mpr ht)
  have hlt := accepted_bound ht
  rw [htarget, nextState, hr.count] at hlt
  exact Nat.lt_irrefl _ hlt

theorem recorded_withLoopState (hr : Recorded h e) {s : LoopState} (ha : Acceptable s e)
    (group : Nat) : Recorded (h ++ [⟨s, group⟩]) (e.withLoopState s) where
  count := by simp [withLoopState, hr.count]
  sound := sound_withLoopState hr.sound ha
  target name t := by
    have hnext : t.index = h.length ↔ e.nextState = t := by
      rw [← hr.count]
      exact ⟨fun h => congrArg StateId.mk h.symm, fun h => (congrArg StateId.index h).symm⟩
    simp only [withLoopState, LoopState.declare, Registry.target_addSources,
      Registry.entry_bind, Named, accepted_snoc, hnext]
    by_cases hn : s.name = some name
    · have hfree := hr.name_free ha hn t
      simp only [hn, if_true, Option.some.injEq, and_true]
      exact ⟨Or.inr, fun h => h.resolve_left hfree⟩
    · simp only [hn, if_false, and_false, or_false]
      exact hr.target name t
  sources name t := by
    have hnext : t.index = h.length ↔ t = e.nextState := by
      rw [← hr.count]
      exact ⟨congrArg StateId.mk, congrArg StateId.index⟩
    have hbind : (Registry.entry name (e.branches.bind s.name e.nextState)).sources =
        (e.branches.entry name).sources := by
      rw [Registry.entry_bind]
      split <;> rfl
    simp only [withLoopState, LoopState.declare, Registry.mem_sources_addSources, hbind,
      Mentions, accepted_snoc, hnext]
    rw [hr.sources, and_comm]
    rfl

theorem recorded_progress (hr : Recorded h e) (hp : Progress e e' added) :
    Recorded (h ++ added) e' := by
  cases hp with
  | appended ha =>
    rw [List.append_nil]
    exact ⟨ha.count.trans hr.count, ha.branches ▸ hr.sound, ha.branches ▸ hr.target,
      ha.branches ▸ hr.sources⟩
  | placed ha => exact recorded_withLoopState hr ha _
  | resolved _ =>
    rw [List.append_nil]
    exact ⟨hr.count, hr.sound, hr.target, hr.sources⟩

end Entity

def LoopState.registers (s : LoopState) : List String := s.name.toList ++ s.leadsTo

namespace Entity

structure Declares (h : List Placed) (e : Entity) : Prop where
  count : e.stateCount = h.length
  distinct : (e.branches.map Branch.name).Nodup
  order : e.branches.map Branch.name = (h.flatMap fun p => p.state.registers).eraseDups
  unreserved : ∀ b ∈ e.branches, Branch.isReserved b.name = false
  target : ∀ name (k : StateId), (e.branches.get? name).bind Branch.target = some k ↔
    ∃ p, h[k.index]? = some p ∧ p.state.name = some name
  sources : ∀ b ∈ e.branches, ∀ k : StateId, k ∈ b.sources ↔
    ∃ p, h[k.index]? = some p ∧ (b.name ∈ p.state.connections ∨
      p.state.timer.isSome = true ∧ p.state.timerBranch = some b.name)
  increasing : ∀ b ∈ e.branches, b.sources.Pairwise fun j k => j.index < k.index
  bounded : ∀ b ∈ e.branches, ∀ k, b.target = some k ∨ k ∈ b.sources → k.index < e.stateCount
  injective : ∀ b ∈ e.branches, ∀ c ∈ e.branches, ∀ k,
    b.target = some k → c.target = some k → b.name = c.name

/-- The registry keeps the names and the sources in the order in which they came. -/
structure Arranged (h : List Placed) (e : Entity) : Prop where
  recorded : Recorded h e
  order : e.branches.InOrder (h.flatMap fun p => p.state.registers)
  increasing : ∀ name,
    (e.branches.entry name).sources.Pairwise fun j k => j.index < k.index

variable {h : List Placed} {e : Entity} {s : LoopState}

theorem mem_leadsTo {name : String} : name ∈ s.leadsTo ↔
    name ∈ s.connections ∨ s.timer.isSome = true ∧ s.timerBranch = some name := by
  unfold LoopState.leadsTo
  rw [List.mem_append]
  cases s.timer <;> simp

theorem target_get? (name : String) (r : Registry) :
    (r.get? name).bind Branch.target = (r.entry name).target := by
  unfold Registry.entry
  cases r.get? name <;> rfl

theorem Recorded.source_lt (hr : Recorded h e) {name : String} {k : StateId}
    (hk : k ∈ (e.branches.entry name).sources) : k.index < e.stateCount :=
  hr.count ▸ accepted_bound ((hr.sources name k).mp hk)

theorem arranged_new (scope name : String) (o : Options) : Arranged [] (new scope name o) where
  recorded := recorded_new scope name o
  order := fun _ => rfl
  increasing := fun _ => List.Pairwise.nil

/-- The names of an accepted state come behind those that were mentioned before. -/
theorem order_withLoopState {mentioned : List String} (ho : e.branches.InOrder mentioned)
    (s : LoopState) : (e.withLoopState s).branches.InOrder (mentioned ++ s.registers) := by
  have horder := (ho.bind s.name e.nextState).addSources s.leadsTo e.nextState
  rw [List.append_assoc] at horder
  exact horder

theorem sources_withLoopState (hr : Recorded h e) (s : LoopState) (name : String) :
    ((e.withLoopState s).branches.entry name).sources =
      (e.branches.entry name).sources ++ if name ∈ s.leadsTo then [e.nextState] else [] := by
  have hnew : e.nextState ∉ (e.branches.entry name).sources :=
    fun hm => Nat.lt_irrefl _ (hr.source_lt hm)
  have hdeclared : (e.withLoopState s).branches =
      (e.branches.bind s.name e.nextState).addSources s.leadsTo e.nextState := rfl
  rw [hdeclared, Registry.sources_addSources, Registry.sources_bind]
  simp only [hnew, not_false_eq_true, and_true]

theorem Arranged.withLoopState (ha : Arranged h e) (hs : Acceptable s e) (group : Nat) :
    Arranged (h ++ [⟨s, group⟩]) (e.withLoopState s) where
  recorded := recorded_withLoopState ha.recorded hs group
  order := by
    rw [List.flatMap_append, List.flatMap_singleton]
    exact order_withLoopState ha.order s
  increasing name := by
    rw [sources_withLoopState ha.recorded]
    refine List.pairwise_append.mpr ⟨ha.increasing name, by split <;> simp, ?_⟩
    intro j hj k hk
    split at hk
    · rw [List.mem_singleton.mp hk]
      exact ha.recorded.source_lt hj
    · cases hk

theorem Arranged.after (ha : Arranged h e) (op : Operation) :
    Arranged (h ++ record e op) (after e op) := by
  rcases after_record e op with ⟨hb, hc, hrec⟩ | ⟨s, -, hs, heq, hrec⟩
  · rw [hrec, List.append_nil]
    have hr := ha.recorded
    exact ⟨⟨hc.trans hr.count, hb ▸ hr.sound, hb ▸ hr.target, hb ▸ hr.sources⟩, hb ▸ ha.order,
      hb ▸ ha.increasing⟩
  · rw [heq, hrec]
    exact ha.withLoopState hs _

theorem arranged_run (scope name : String) (o : Options) (ops : List Operation) :
    Arranged (history (new scope name o) ops) (run (new scope name o) ops) :=
  history_induction (Q := fun _ => True) (fun _ ha => ha.after _) (arranged_new scope name o)
    fun _ _ => trivial

theorem Arranged.entry_eq (ha : Arranged h e) {b : Branch} (hb : b ∈ e.branches) :
    e.branches.entry b.name = b :=
  Registry.entry_of_mem ha.recorded.sound.distinct hb

theorem Arranged.declares (ha : Arranged h e) : Declares h e where
  count := ha.recorded.count
  distinct := ha.recorded.sound.distinct
  order := ha.order.names_eq ha.recorded.sound.distinct
  unreserved := ha.recorded.sound.unreserved
  target name k := by
    rw [target_get?]
    exact ha.recorded.target name k
  sources b hb k := by
    have hsources := ha.recorded.sources b.name k
    rw [ha.entry_eq hb] at hsources
    simp only [Mentions, Accepted, mem_leadsTo] at hsources
    exact hsources
  increasing b hb := by
    have hincreasing := ha.increasing b.name
    rw [ha.entry_eq hb] at hincreasing
    exact hincreasing
  bounded b hb k hk := by
    rw [← ha.entry_eq hb] at hk
    rcases hk with hk | hk
    · rw [ha.recorded.count]
      exact accepted_bound ((ha.recorded.target b.name k).mp hk)
    · exact ha.recorded.source_lt hk
  injective b hb c hc k hbk hck := by
    rw [← ha.entry_eq hb] at hbk
    rw [← ha.entry_eq hc] at hck
    obtain ⟨p, hp, hname⟩ := (ha.recorded.target b.name k).mp hbk
    obtain ⟨q, hq, hname'⟩ := (ha.recorded.target c.name k).mp hck
    obtain rfl : p = q := Option.some.inj (hp.symm.trans hq)
    exact Option.some.inj (hname.symm.trans hname')

/-- At every point of a run the registry is what the accepted states declare, and a target
stays for the rest of the run. A state that is refused changes neither the registry nor the
history; one that is accepted gets the next number and is the next of the history. -/
theorem registry_is_declared (scope name : String) (o : Options) (ops : List Operation) :
    Declares (history (new scope name o) ops) (run (new scope name o) ops) ∧
    (∀ later branch k,
      ((run (new scope name o) ops).branches.get? branch).bind Branch.target = some k →
      ((run (new scope name o) (ops ++ later)).branches.get? branch).bind Branch.target =
        some k) ∧
    (∀ s c, ((addLoopState s).apply (run (new scope name o) ops)).2 = .error c →
      (run (new scope name o) (ops ++ [.addLoopState s])).branches =
        (run (new scope name o) ops).branches ∧
      history (new scope name o) (ops ++ [.addLoopState s]) = history (new scope name o) ops) ∧
    ∀ s id, ((addLoopState s).apply (run (new scope name o) ops)).2 = .ok id →
      id.index = (history (new scope name o) ops).length ∧
      ∃ p, p.state = s ∧ history (new scope name o) (ops ++ [.addLoopState s]) =
        history (new scope name o) ops ++ [p] := by
  have ha := arranged_run scope name o ops
  refine ⟨ha.declares, fun later branch k hk => ?_, fun s c hc => ?_, fun s id hid => ?_⟩
  · rw [target_get?] at hk ⊢
    rw [run_append]
    exact (extends_run _ later).target branch k hk
  · constructor
    · rw [run_snoc, after_refused (addLoopState_error hc)]
    · rw [history_snoc, record, hc, List.append_nil]
  · constructor
    · rw [(addLoopState_ok hid).2, nextState, ha.recorded.count]
    · rw [history_snoc, record, hid]
      exact ⟨_, rfl, rfl⟩

/-- The third state takes a name again, the fourth one a word of the conditions. The last
state has no timer that could lead to `gone`. -/
def refusedNamesRun : List Operation := [
  .addLoopState { connections := ["hurt", "calm"] },
  .addLoopState { name := some "hurt", timer := some 3.0, timerBranch := some "calm"
                  connections := ["hurt", "hurt"] },
  .addLoopState { name := some "hurt", connections := ["lost"] },
  .resolveBranches,
  .addLoopState { connections := ["lost", "query"] },
  .addLoopState { name := some "calm", timerBranch := some "gone" }]

theorem refused_names_run_declares : Declares (history (new "dev" "Boss" {}) refusedNamesRun)
      (run (new "dev" "Boss" {}) refusedNamesRun) ∧
    (history (new "dev" "Boss" {}) refusedNamesRun).length = 3 ∧
    (run (new "dev" "Boss" {}) refusedNamesRun).branches =
      [⟨"hurt", some ⟨1⟩, [⟨0⟩, ⟨1⟩]⟩, ⟨"calm", some ⟨2⟩, [⟨0⟩, ⟨1⟩]⟩] := by
  refine ⟨(registry_is_declared "dev" "Boss" {} refusedNamesRun).1, ?_, ?_⟩ <;> decide +kernel

end Entity
end EntityPack
