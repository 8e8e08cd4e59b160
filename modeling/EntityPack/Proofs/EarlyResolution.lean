import EntityPack.Proofs.Idempotence
import EntityPack.Proofs.Removal

/-!
# Resolving early

Two entities that are built by the same operations, one of them resolved in between, stay
alike in what a last resolution makes of them. A rewriting that knows the final targets
absorbs every earlier resolution, so that the outlines agree; the remove-lists of the one
that was resolved are ahead of the others by what is due anyway.
-/
namespace EntityPack

structure Completes (f : String → String) (r : Registry) : Prop extends Settles f where
  label : ∀ id : StateId, f id.label = id.label
  name : ∀ n t, (r.entry n).target = some t → f n = t.label

structure Registry.Worded (r : Registry) : Prop where
  sound : r.Sound
  words : ∀ b ∈ r, Text.TokenWord b.name

variable {f : String → String} {r r' : Registry} {branches : List ResolvedBranch}

theorem Completes.of_extends (hc : Completes f r') (h : r.Extends r') : Completes f r :=
  { hc with name := fun n t ht => hc.name n t (h.target n t ht) }

def Registry.completion (r : Registry) (n : String) : String :=
  ((r.entry n).target.map StateId.label).getD n

theorem Registry.completes_completion (hs : r.Sound) : Completes r.completion r := by
  have hlabel : ∀ id : StateId, r.completion id.label = id.label := by
    intro id
    have htarget : (r.entry id.label).target = none := by
      rcases entry_mem_or_blank id.label r with hm | hblank
      · exact (StateId.label_ne_of_unreserved (hs.unreserved _ hm) id (name_entry _ r)).elim
      · rw [hblank]
    rw [completion, htarget, Option.map_none, Option.getD_none]
  have hcases : ∀ n, r.completion n = n ∨ ∃ id : StateId, r.completion n = id.label := by
    intro n
    unfold completion
    cases (r.entry n).target with
    | none => exact Or.inl rfl
    | some t => exact Or.inr ⟨t, rfl⟩
  refine ⟨⟨fun n => ?_, fun w hw => ?_⟩, hlabel, fun n t ht => ?_⟩
  · rcases hcases n with h | ⟨id, h⟩
    · rw [h, h]
    · rw [h, hlabel]
  · rcases hcases w with h | ⟨id, h⟩
    · rw [h]
      exact hw
    · rw [h]
      exact id.label_tokenWord.toWord
  · rw [completion, ht, Option.map_some, Option.getD_some]

namespace Branch

theorem completes_substituteId (hs : r.Sound) (h : r.resolved = .ok branches) :
    Completes (substituteId branches) r where
  idem := substituteId_idem hs h
  word _ hw := substituteId_word hw
  label := substituteId_label hs h
  name n t ht := by
    rcases Registry.entry_mem_or_blank n r with hm | hblank
    · have hn := substituteId_name hs h hm ht
      rwa [Registry.name_entry] at hn
    · rw [hblank] at ht
      cases ht

/-- A rewriting that knows the targets absorbs the substitution. -/
theorem absorbs_substituteId (hc : Completes f r) (hs : r.Sound) (h : r.resolved = .ok branches)
    (id : String) : f (substituteId branches id) = f id := by
  have hrenames := substituteId_renames hs h id
  by_cases hid : ∃ b ∈ r, b.name = id
  · obtain ⟨b, hb, rfl⟩ := hid
    obtain ⟨t, ht, heq⟩ := hrenames.name b hb rfl
    rw [heq, hc.label, hc.name b.name t (by rw [Registry.entry_of_mem hs.distinct hb, ht])]
  · rw [hrenames.other fun b hb heq => hid ⟨b, hb, heq⟩]

theorem substituteText_eq_words (hw : r.Worded) (h : r.resolved = .ok branches) (text : String) :
    substituteText branches text = Text.mapWords (substituteId branches) text := by
  have hm : ∀ b ∈ branches, b.toBranch ∈ r := fun b hb =>
    Registry.resolved_ok.mp h ▸ List.mem_map_of_mem hb
  exact substituteText_eq_mapWords (fun b hb => hw.words _ (hm b hb))
    (fun b hb => StateId.label_ne_of_unreserved (hw.sound.unreserved _ (hm b hb))) text

theorem absorbs_substituteText (hc : Completes f r) (hw : r.Worded)
    (h : r.resolved = .ok branches) (text : String) :
    Text.mapWords f (substituteText branches text) = Text.mapWords f text := by
  rw [substituteText_eq_words hw h, Text.mapWords_mapWords fun w => substituteId_word]
  congr 1
  funext w
  exact absorbs_substituteId hc hw.sound h w

end Branch

namespace Entity

def withoutRemoves (e : Entity) : Entity :=
  { e with behavior := { e.behavior with events := e.behavior.events.map Event.withoutRemoves } }

/-- The entities differ at most in the order of the groups in remove-lists of events, and in
how often they stand there. -/
structure SameButRemovals (e e' : Entity) : Prop where
  rest : e'.withoutRemoves = e.withoutRemoves
  removes : ∀ i group, RemovesAt e'.behavior.events i group ↔ RemovesAt e.behavior.events i group

variable {e e₁ e₂ : Entity}

theorem outline_sew (seams : List (String × String)) (events : List Event) :
    (Branch.sew seams events).map (·.outline f) = events.map (·.outline f) := by
  induction seams generalizing events with
  | nil => rfl
  | cons seam seams ih =>
    rw [Branch.sew_cons, ih, map_modifyFirst _ (Event.outline_ensureRemoves seam.2)]

theorem outline_stitched (branches : List ResolvedBranch) (e : Entity) :
    (e.stitched branches).outline f = e.outline f := by
  have hb : (Branch.stitchAll branches e.behavior).outline f = e.behavior.outline f := by
    rw [Branch.stitchAll_eq]
    simp only [Behavior.outline, Branch.sewn, Behavior.rewrite, outline_sew]
  exact outline_parts e hb rfl rfl

theorem outline_withResolved (hc : Completes f e.branches) (hw : e.branches.Worded)
    (h : e.branches.resolved = .ok branches) :
    (e.withResolved branches).outline f = e.outline f := by
  rw [withResolved_eq, outline_rewrite (Branch.absorbs_substituteId hc hw.sound h)
    (Branch.absorbs_substituteText hc hw h), outline_stitched]

theorem outline_eq (f : String → String) (e : Entity) :
    e.outline f = (e.rewrite f (Text.mapWords f)).withoutRemoves := by
  simp [outline, rewrite, withoutRemoves, Behavior.outline, Behavior.rewrite, Function.comp_def,
    Event.outline, Controller.outline, Controller.rewrite, Controller.State.outline]

theorem withoutRemoves_withResolved (hw : e.branches.Worded)
    (h : e.branches.resolved = .ok branches) :
    (e.withResolved branches).withoutRemoves = e.outline (Branch.substituteId branches) := by
  have htext : Branch.substituteText branches = Text.mapWords (Branch.substituteId branches) :=
    funext (Branch.substituteText_eq_words hw h)
  rw [withResolved_eq, htext, ← outline_eq, outline_stitched]

/-- Seen through a rewriting that knows the targets, resolution adds what is due. -/
theorem reachesAt_withResolved (hc : Completes f e.branches) (hs : e.branches.Sound)
    (h : e.branches.resolved = .ok branches) (i : Nat) (group : String) :
    ReachesAt f (e.withResolved branches).behavior.events i group ↔
      ReachesAt f e.behavior.events i group ∨ e.branches.DueAt e.eventIds i group := by
  have hdue : ∀ {g}, e.branches.DueAt e.eventIds i g → f g = g := by
    rintro g ⟨id, -, -, hp⟩
    obtain ⟨k, rfl⟩ := hp.eq_label
    exact hc.label k
  constructor
  · rintro ⟨g, hg, rfl⟩
    rcases (removesAt_withResolved hs h i g).mp hg with ⟨old, hold, rfl⟩ | hg
    · exact Or.inl ⟨old, hold, (Branch.absorbs_substituteId hc hs h old).symm⟩
    · rw [hdue hg]
      exact Or.inr hg
  · rintro (⟨g, hg, rfl⟩ | hg)
    · exact ⟨_, (removesAt_withResolved hs h i _).mpr (Or.inl ⟨g, hg, rfl⟩),
        Branch.absorbs_substituteId hc hs h g⟩
    · exact ⟨group, (removesAt_withResolved hs h i group).mpr (Or.inr hg), hdue hg⟩

/-- The second entity was resolved more often. -/
structure Ahead (f : String → String) (e₁ e₂ : Entity) : Prop where
  outline : e₁.outline f = e₂.outline f
  kept : ∀ i group, ReachesAt f e₁.behavior.events i group →
    ReachesAt f e₂.behavior.events i group
  due : ∀ i group, ReachesAt f e₂.behavior.events i group →
    ReachesAt f e₁.behavior.events i group ∨ e₁.branches.DueAt e₁.eventIds i group

namespace Ahead

theorem refl (f : String → String) (e : Entity) : Ahead f e e :=
  ⟨rfl, fun _ _ h => h, fun _ _ h => Or.inl h⟩

variable (h : Ahead f e₁ e₂)

include h

theorem same_branches : e₂.branches = e₁.branches := by
  have hsame := congrArg Entity.branches h.outline
  exact hsame.symm

theorem same_ids : e₂.eventIds = e₁.eventIds := by
  rw [← eventIds_outline (f := f) e₂, ← h.outline, eventIds_outline]

theorem same_check (s : LoopState) : checkLoopState s e₂ = checkLoopState s e₁ := by
  rw [← checkLoopState_outline (f := f), ← h.outline, checkLoopState_outline]

theorem same_state : e₂.nextState = e₁.nextState := by
  have hsame := congrArg Entity.nextState h.outline
  exact hsame.symm

theorem reaches_resolved (hc : Completes f e₁.branches) (hs : e₁.branches.Sound)
    (hr : e₁.branches.resolved = .ok branches) (i : Nat) (group : String) :
    ReachesAt f (e₂.withResolved branches).behavior.events i group ↔
      ReachesAt f e₂.behavior.events i group ∨ e₁.branches.DueAt e₁.eventIds i group := by
  rw [← h.same_branches] at hc hs hr ⊢
  rw [← h.same_ids]
  exact reachesAt_withResolved hc hs hr i group

theorem resolve_later (hc : Completes f e₁.branches) (hw : e₁.branches.Worded)
    (hr : e₁.branches.resolved = .ok branches) :
    Ahead f e₁ (e₂.withResolved branches) := by
  have hb := h.same_branches
  have hreaches := h.reaches_resolved hc hw.sound hr
  refine ⟨?_, fun i group hg => ?_, fun i group hg => ?_⟩
  · rw [outline_withResolved (hb ▸ hc) (hb ▸ hw) (hb ▸ hr), h.outline]
  · exact (hreaches i group).mpr (Or.inl (h.kept i group hg))
  · rcases (hreaches i group).mp hg with hg | hg
    · exact h.due i group hg
    · exact Or.inr hg

/-- Resolution of the first entity makes up for what was due. -/
theorem resolve_both (hc : Completes f e₁.branches) (hw : e₁.branches.Worded)
    (hr : e₁.branches.resolved = .ok branches) :
    Ahead f (e₁.withResolved branches) (e₂.withResolved branches) := by
  have hlater := h.resolve_later hc hw hr
  have hreaches := reachesAt_withResolved hc hw.sound hr
  refine ⟨?_, fun i group hg => ?_, fun i group hg => ?_⟩
  · rw [outline_withResolved hc hw hr, hlater.outline]
  · rcases (hreaches i group).mp hg with hg | hg
    · exact hlater.kept i group hg
    · exact (h.reaches_resolved hc hw.sound hr i group).mpr (Or.inr hg)
  · exact Or.inl ((hreaches i group).mpr (hlater.due i group hg))

theorem step (hf : Settles f) (hs : e₁.branches.Sound) {op : Operation} (hk : op.KeepsIds)
    (hr : op ≠ .resolveBranches) (hb : op ≠ .build) : Ahead f (after e₁ op) (after e₂ op) := by
  obtain ⟨ids, gain, h₁, h₂⟩ := sameGains_after hk hr hb h.outline
  refine ⟨?_, fun i group hg => ?_, fun i group hg => ?_⟩
  · rw [← outline_after hf e₁ hr hb, h.outline, outline_after hf e₂ hr hb]
  · exact (h₂.reaches i group).mpr (((h₁.reaches i group).mp hg).imp_left (h.kept i group))
  · rw [h₁.reaches]
    rcases (h₂.reaches i group).mp hg with hg | hg
    · refine (h.due i group hg).imp Or.inl fun hdue => ?_
      have hids : (after e₁ op).eventIds = e₁.eventIds ++ ids := h₁.ids
      rw [hids]
      exact hdue.mono (extends_after e₁ op) hs (sound_after hs op) ids
    · exact Or.inl (Or.inr hg)

theorem after (hw : e₁.branches.Worded) {op : Operation} (hk : op.KeepsIds)
    (hc : Completes f (Entity.after e₁ op).branches) :
    Ahead f (Entity.after e₁ op) (Entity.after e₂ op) := by
  have hc₁ := hc.of_extends (extends_after e₁ op)
  have hresolve :
      Ahead f (Entity.after e₁ .resolveBranches) (Entity.after e₂ .resolveBranches) := by
    cases hr : e₁.branches.resolved with
    | ok branches =>
      rw [after_resolved hr, after_resolved (h.same_branches ▸ hr)]
      exact h.resolve_both hc₁ hw hr
    | error c =>
      rw [after_unresolved hr, after_unresolved (h.same_branches ▸ hr)]
      exact h
  by_cases hr : op = .resolveBranches
  · exact hr ▸ hresolve
  · by_cases hb : op = .build
    · rw [hb, after_build, after_build]
      exact hresolve
    · exact h.step hc₁.toSettles hw.sound hk hr hb

end Ahead

inductive Early where
  | resolve
  | build
  deriving DecidableEq, Repr

def Early.operation : Early → Operation
  | .resolve => .resolveBranches
  | .build => .build

/-- Operations, each with the calls that can be put in before it. -/
abbrev Schedule := List (List Early × Operation)

namespace Schedule

def plain (schedule : Schedule) : List Operation := schedule.map Prod.snd

def hastened (schedule : Schedule) : List Operation :=
  schedule.flatMap fun step => step.1.map Early.operation ++ [step.2]

end Schedule

theorem Ahead.early (h : Ahead f e₁ e₂) (hw : e₁.branches.Worded)
    (hc : Completes f e₁.branches) (early : List Early) :
    Ahead f e₁ (run e₂ (early.map Early.operation)) := by
  induction early generalizing e₂ with
  | nil => exact h
  | cons call early ih =>
    have hresolve : Ahead f e₁ (Entity.after e₂ .resolveBranches) := by
      cases hr : e₁.branches.resolved with
      | ok branches =>
        rw [after_resolved (h.same_branches ▸ hr)]
        exact h.resolve_later hc hw hr
      | error c =>
        rw [after_unresolved (h.same_branches ▸ hr)]
        exact h
    refine ih ?_
    cases call with
    | resolve => exact hresolve
    | build =>
      rw [Early.operation, after_build]
      exact hresolve

def Operation.PlainNames : Operation → Prop
  | .addLoopState s => ∀ name ∈ s.mentions,
      name ≠ "" ∧ ∀ c ∈ name.toList, c.isAlphanum = true ∨ c = '_'
  | _ => True

theorem worded_after (hw : e.branches.Worded) {op : Operation} (hop : op.PlainNames) :
    (after e op).branches.Worded where
  sound := sound_after hw.sound op
  words := by
    refine names_after hw.words fun s hs name hm => ?_
    subst hs
    obtain ⟨hne, hplain⟩ := hop name hm
    exact Text.tokenWord_of_ascii hne hplain

/-- A rewriting that knows the targets at the end of a run carries the relation through it. -/
theorem Ahead.run {schedule : Schedule} (h : Ahead f e₁ e₂) (hw : e₁.branches.Worded)
    (hops : ∀ op ∈ schedule.plain, op.KeepsIds ∧ op.PlainNames)
    (hc : Completes f (run e₁ schedule.plain).branches) :
    (run e₁ schedule.plain).branches.Worded ∧
      Ahead f (run e₁ schedule.plain) (run e₂ schedule.hastened) := by
  induction schedule generalizing e₁ e₂ with
  | nil => exact ⟨hw, h⟩
  | cons step schedule ih =>
    obtain ⟨early, op⟩ := step
    obtain ⟨hkeeps, hplain⟩ := hops op (by simp [Schedule.plain])
    have hcop : Completes f (Entity.after e₁ op).branches :=
      hc.of_extends (extends_run (Entity.after e₁ op) (Schedule.plain schedule))
    have hearly := h.early hw (hcop.of_extends (extends_after e₁ op)) early
    have hrest := ih (hearly.after hw hkeeps hcop) (worded_after hw hplain)
      (fun o ho => hops o (List.mem_cons_of_mem op ho)) hc
    have hsplit : Schedule.hastened ((early, op) :: schedule) =
        early.map Early.operation ++ (op :: Schedule.hastened schedule) := by
      simp [Schedule.hastened]
    rw [hsplit, run_append]
    exact hrest

theorem outcome_addLoopState (s : LoopState) (e : Entity) :
    ((perform (.addLoopState s)).apply e).2 =
      (checkLoopState s e).map fun _ => .state e.nextState := by
  cases hc : checkLoopState s e with
  | ok u =>
    have hadd := addLoopState_accepted (checkLoopState_ok.mp hc)
    exact congrArg Prod.snd (Assembly.apply_bind_ok hadd)
  | error c => exact congrArg Prod.snd (Assembly.apply_bind_error (addLoopState_refused hc))

theorem outcome_resolveBranches (e : Entity) :
    ((perform .resolveBranches).apply e).2 = e.branches.resolved.map fun _ => .done := by
  cases hr : e.branches.resolved with
  | ok branches => exact congrArg Prod.snd (Assembly.apply_bind_ok (resolve_eq hr))
  | error c => exact congrArg Prod.snd (Assembly.apply_bind_error (resolveBranches_refused hr))

/-- What is due is made up for by a resolution of both entities. -/
theorem Ahead.same_resolved (hw : e₁.branches.Worded)
    (hr : e₁.branches.resolved = .ok branches)
    (h : Ahead (Branch.substituteId branches) e₁ e₂) :
    SameButRemovals (e₁.withResolved branches) (e₂.withResolved branches) := by
  have hb := h.same_branches
  have hremoves := removesAt_withResolved (e := e₂) (hb ▸ hw.sound) (hb ▸ hr)
  rw [hb, h.same_ids] at hremoves
  refine ⟨?_, fun i group => ?_⟩
  · rw [withoutRemoves_withResolved hw hr, withoutRemoves_withResolved (hb ▸ hw) (hb ▸ hr),
      h.outline]
  · rw [hremoves, removesAt_withResolved hw.sound hr]
    constructor
    · rintro (hg | hg)
      · exact h.due i group hg
      · exact Or.inr hg
    · exact Or.imp_left (h.kept i group)

/-- Calls that resolve early, put in anywhere before a call of a run, leave its outcome as it
is, whether it adds a loop state or resolves. After a resolution that succeeds, the entities
with and without the early calls differ at most inside remove-lists of events, in the order
of the groups and in repetitions. -/
theorem early_resolution_is_harmless (scope name : String) (o : Options) (schedule : Schedule)
    (early : List Early) (hops : ∀ op ∈ schedule.plain, op.KeepsIds ∧ op.PlainNames) :
    let e₁ := run (new scope name o) schedule.plain
    let e₂ := run (new scope name o) (schedule.hastened ++ early.map Early.operation)
    (∀ s, ((perform (.addLoopState s)).apply e₂).2 = ((perform (.addLoopState s)).apply e₁).2) ∧
    ((perform .resolveBranches).apply e₂).2 = ((perform .resolveBranches).apply e₁).2 ∧
    ∀ e₁', resolveBranches.apply e₁ = (e₁', .ok ()) →
      ∃ e₂', resolveBranches.apply e₂ = (e₂', .ok ()) ∧ SameButRemovals e₁' e₂' := by
  intro e₁ e₂
  have hnew : (new scope name o).branches.Worded := ⟨Registry.sound_nil, by simp [new]⟩
  have hsound : e₁.branches.Sound := sound_reachable (reachable_run (.new scope name o) _)
  have ahead : ∀ {f}, Completes f e₁.branches → e₁.branches.Worded ∧ Ahead f e₁ e₂ := by
    intro f hc
    obtain ⟨hw, h⟩ := (Ahead.refl f (new scope name o)).run hnew hops hc
    have hearly := h.early hw hc early
    rw [← run_append] at hearly
    exact ⟨hw, hearly⟩
  obtain ⟨hw, h⟩ := ahead (Registry.completes_completion hsound)
  refine ⟨fun s => ?_, ?_, fun e₁' hresolve => ?_⟩
  · rw [outcome_addLoopState, outcome_addLoopState, h.same_check, h.same_state]
  · rw [outcome_resolveBranches, outcome_resolveBranches, h.same_branches]
  · obtain ⟨branches, hr, rfl⟩ := resolve_ok hresolve
    have hfinal := (ahead (Branch.completes_substituteId hsound hr)).2
    exact ⟨_, resolve_eq (hfinal.same_branches ▸ hr), hfinal.same_resolved hw hr⟩

/-- The first state is connected before the loop is closed. The early calls fail where a name
has no target yet. -/
def earlyCalls : Schedule := [
  ([], .createController .behavior "timing" none),
  ([.build], .addLoopState {
    name := some "calm", connections := ["hurt"], entryCommands := some ["/tag @s add hurt"] }),
  ([.resolve, .build], .addLoopState { name := some "hurt", connections := ["calm"] }),
  ([.resolve], .addLoopState { last := true, connections := ["calm"], timer := some 5.0 })]

theorem early_calls_reorder_removals : (∀ op ∈ earlyCalls.plain, op.KeepsIds ∧ op.PlainNames) ∧
    ∃ e₁' e₂', resolveBranches.apply (run (new "dev" "Boss" {}) earlyCalls.plain) = (e₁', .ok ()) ∧
      resolveBranches.apply (run (new "dev" "Boss" {})
        (earlyCalls.hastened ++ [Early.build].map Early.operation)) = (e₂', .ok ()) ∧
      SameButRemovals e₁' e₂' ∧
      (e₁'.behavior.events.map Event.remove).head? = some ["state_2", "state_1"] ∧
      (e₂'.behavior.events.map Event.remove).head? = some ["state_1", "state_2"] := by
  have hops : ∀ op ∈ earlyCalls.plain, op.KeepsIds ∧ op.PlainNames := by
    simp only [earlyCalls, Schedule.plain, List.map_cons, List.map_nil, List.forall_mem_cons,
      Operation.KeepsIds, Operation.PlainNames, LoopState.mentions, true_and, List.not_mem_nil,
      IsEmpty.forall_iff, implies_true, and_true]
    simp
  have hr : (run (new "dev" "Boss" {}) earlyCalls.plain).branches.resolved =
      .ok [⟨"calm", ⟨0⟩, [⟨1⟩, ⟨2⟩]⟩, ⟨"hurt", ⟨1⟩, [⟨0⟩]⟩] := by decide +kernel
  obtain ⟨-, -, hsame⟩ := early_resolution_is_harmless "dev" "Boss" {} earlyCalls [.build] hops
  obtain ⟨e₂', hresolve, hremovals⟩ := hsame _ (resolve_eq hr)
  refine ⟨hops, _, e₂', resolve_eq hr, hresolve, hremovals, by decide +kernel, ?_⟩
  obtain rfl := (congrArg Prod.fst hresolve).symm
  decide +kernel

end Entity

end EntityPack
