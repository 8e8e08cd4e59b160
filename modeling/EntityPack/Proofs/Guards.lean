import EntityPack.Proofs.Resolution
import EntityPack.Proofs.Settling
import EntityPack.Proofs.Spokes

/-!
# Guards of loop states

The transitions between the hub and the spokes test the number of the active state. Their
targets are reserved. Their conditions are texts like any other, and stay the same exactly
if no branch name stands in them: a name that is a word must not be the number itself.
-/
namespace EntityPack

/-- A transition of a loop state: from the hub into its spoke, or from the spoke back. -/
inductive Generated : String × String → Prop where
  | enter (id : StateId) : Generated (id.label, id.activeCondition)
  | leave (id : StateId) : Generated (hubState, id.inactiveCondition)
  | finish : Generated (hubState, finishedCondition)

def Controller.transitions (c : Controller) : List (String × String) :=
  c.states.flatMap (·.transitions)

variable {branches : List ResolvedBranch} {text name : String} {t : String × String}

namespace StateId

/-- The number of the active state compared with that of a state. -/
def comparison (sign : Char) (id : StateId) : String :=
  String.ofList ("query.skin_id".toList ++ [sign, '=']) ++ toString id.index

theorem activeCondition_eq (id : StateId) : id.activeCondition = id.comparison '=' := rfl

theorem inactiveCondition_eq (id : StateId) : id.inactiveCondition = id.comparison '!' := rfl

theorem comparison_toList (sign : Char) (id : StateId) : (id.comparison sign).toList =
    "query".toList ++ '.' :: ("skin_id".toList ++ sign :: '=' :: Nat.toDigits 10 id.index) := by
  have hstart : "query.skin_id".toList = "query".toList ++ '.' :: "skin_id".toList := by rfl
  have hnumber : (toString id.index).toList = Nat.toDigits 10 id.index := Nat.toList_repr
  unfold comparison
  rw [String.toList_append, String.toList_ofList, hnumber, hstart]
  simp only [List.append_assoc, List.cons_append, List.nil_append]

theorem unbroken_digits (id : StateId) : Text.Unbroken (Nat.toDigits 10 id.index) := by
  intro c hc
  have hword := id.label_tokenWord.unbroken
  rw [label_toList] at hword
  exact hword c (List.mem_append_right _ hc)

end StateId

theorem toString_eq_iff {id : StateId} :
    name = toString id.index ↔ name.toList = Nat.toDigits 10 id.index := by
  rw [← String.toList_inj, Nat.toString_eq_repr, Nat.toList_repr]

theorem Generated.no_label (h : Generated t) (id : StateId) :
    ¬ id.label.toList <:+: t.2.toList := by
  intro hlabel
  rw [StateId.label_toList] at hlabel
  have hstem := (List.prefix_append _ _).isInfix.trans hlabel
  have hletter : 't' ∈ t.2.toList := hstem.subset (by simp)
  have hdigits : ∀ n : Nat, 't' ∉ Nat.toDigits 10 n := by
    intro n hn
    have hd := Nat.isDigit_of_mem_toDigits (by decide) (by decide) hn
    exact absurd hd (by decide)
  cases h with
  | enter a => simp [StateId.activeCondition_eq, StateId.comparison_toList, hdigits] at hletter
  | leave a => simp [StateId.inactiveCondition_eq, StateId.comparison_toList, hdigits] at hletter
  | finish =>
    revert hstem
    decide +kernel

theorem Generated.target (h : Generated t) : Branch.isReserved t.1 = true := by
  cases h with
  | enter id => exact id.reserved_label
  | leave id => rfl
  | finish => rfl

section Words

variable (hw : Text.TokenWord name)

include hw

theorem stands_first {w rest : List Char} {c : Char} {before : Option Char}
    (hne : w ≠ []) (hu : Text.Unbroken w) (hc : Text.isWord c = false)
    (hb : before.any Text.isWord = false) :
    Text.stands name.toList before (w ++ c :: rest) = true ↔
      name.toList = w ∨ Text.stands name.toList (some c) rest = true := by
  rw [Text.stands_word_iff (u := c :: rest) hw.edged hw.unbroken hne hu hc hb,
    Text.stands_separated hw.edged hc]

theorem standsIn_comparison {sign : Char} (hsign : Text.isWord sign = false)
    (hr : Branch.isReserved name = false) (id : StateId) :
    Text.StandsIn name (id.comparison sign) ↔ name = toString id.index := by
  have hquery : Text.Unbroken "query".toList := List.all_eq_true.mp (by decide)
  have hskin : Text.Unbroken "skin_id".toList := List.all_eq_true.mp (by decide)
  rw [Text.StandsIn, StateId.comparison_toList,
    stands_first hw (by decide) hquery (by decide) rfl,
    stands_first hw (by decide) hskin hsign (by decide),
    Text.stands_separated hw.edged (by decide),
    Text.stands_only hw.edged hw.unbroken Nat.toDigits_ne_nil id.unbroken_digits (by decide),
    ← toString_eq_iff, String.toList_inj, String.toList_inj]
  -- The two words in front of the number are reserved.
  have hfirst : name ≠ "query" := by rintro rfl; cases hr
  have hsecond : name ≠ "skin_id" := by rintro rfl; cases hr
  simp [hfirst, hsecond]

theorem not_standsIn_finishedCondition (hr : Branch.isReserved name = false) :
    ¬ Text.StandsIn name finishedCondition := by
  have hquery : Text.Unbroken "query".toList := List.all_eq_true.mp (by decide)
  have hfinished : Text.Unbroken "all_animations_finished".toList :=
    List.all_eq_true.mp (by decide)
  have hlist : finishedCondition.toList =
      "query".toList ++ '.' :: "all_animations_finished".toList := by rfl
  rw [Text.StandsIn, hlist, stands_first hw (by decide) hquery (by decide) rfl,
    Text.stands_only hw.edged hw.unbroken (by decide) hfinished (by decide),
    String.toList_inj, String.toList_inj]
  rintro (rfl | rfl) <;> cases hr

end Words

/-- Generated transitions keep their targets. They keep their conditions exactly if no name
stands in them. -/
def KeepsGuard (r : Registry) (t t' : String × String) : Prop :=
  Generated t → t'.1 = t.1 ∧ (t' = t ↔ ∀ b ∈ r, ¬ Text.StandsIn b.name t.2)

structure Controller.KeepsGuards (r : Registry) (c c' : Controller) : Prop where
  id : c'.id = c.id
  states : List.Forall₂ (fun s s' => s'.id = s.id ∧
    List.Forall₂ (KeepsGuard r) s.transitions s'.transitions) c.states c'.states

theorem keepsGuard_resolved {r : Registry} (hs : r.Sound) (h : r.resolved = .ok branches)
    (t : String × String) :
    KeepsGuard r t (Branch.substituteId branches t.1, Branch.substituteText branches t.2) := by
  intro hg
  have htarget : Branch.substituteId branches t.1 = t.1 := by
    refine Branch.substituteId_other h fun b hb heq => ?_
    have hfree := hs.unreserved b hb
    rw [heq, hg.target] at hfree
    cases hfree
  refine ⟨htarget, ?_⟩
  rw [htarget, Prod.ext_iff]
  simp only [true_and]
  rw [Branch.substituteText_eq_self_iff hg.no_label, Registry.resolved_ok.mp h]
  simp [Branch.Nameless, ResolvedBranch.toBranch]

theorem Controller.keepsGuards_resolved {r : Registry} (hs : r.Sound)
    (h : r.resolved = .ok branches) (c : Controller) :
    c.KeepsGuards r (Branch.resolveController branches c) := by
  refine ⟨rfl, forall₂_map_self (fun s => ⟨rfl, ?_⟩) c.states⟩
  exact forall₂_map_self (keepsGuard_resolved hs h) s.transitions

theorem LoopState.Spoke.generated {s : LoopState} {id : StateId} {spoke : Controller.State}
    (h : s.Spoke id spoke) (ht : t ∈ spoke.transitions) : Generated t := by
  cases h with
  | commands =>
    rw [List.mem_singleton.mp ht]
    exact .leave id
  | animation name =>
    rw [List.mem_singleton.mp ht]
    split
    · exact .leave id
    · exact .finish

namespace Entity

variable {e e' : Entity} {s : LoopState}

def transitions (kind : ControllerKind) (e : Entity) : List (String × String) :=
  (e.controllers kind).flatMap Controller.transitions

/-- A loop state adds only generated transitions to the controllers. -/
theorem generated_of_added {id : StateId} (h : (addLoopState s).apply e = (e', .ok id))
    {kind : ControllerKind} (ht : t ∈ e'.transitions kind) :
    t ∈ e.transitions kind ∨ Generated t := by
  cases hc : checkLoopState s e with
  | error cause =>
    rw [addLoopState_refused hc] at h
    cases congrArg Prod.snd h
  | ok u =>
    rw [addLoopState_accepted (checkLoopState_ok.mp hc)] at h
    obtain rfl : e.withLoopState s = e' := congrArg Prod.fst h
    obtain ⟨c, hc, ht⟩ := List.mem_flatMap.mp ht
    rcases mem_controllers_withLoopState hc with hc | ⟨d, hd, spoke, hspoke, rfl⟩
    · exact Or.inl (List.mem_flatMap.mpr ⟨c, hc, ht⟩)
    · obtain ⟨source, hsource, ht⟩ := List.mem_flatMap.mp ht
      rcases Controller.transition_wired hsource ht with ⟨old, hold, -, ht⟩ | ⟨-, rfl⟩ | ⟨-, ht⟩
      · exact Or.inl (List.mem_flatMap.mpr ⟨d, hd, List.mem_flatMap.mpr ⟨old, hold, ht⟩⟩)
      · exact Or.inr (.enter e.nextState)
      · exact Or.inr (hspoke.generated ht)

/-- Resolution leaves a generated transition as it is, byte for byte, exactly if no branch
name stands in its condition. A name that is a word stands there only if it is the number
that is compared. All transitions that loop states add are generated ones. -/
theorem guards_survive_unless_named (hr : Reachable e)
    (h : resolveBranches.apply e = (e', .ok ())) :
    (∀ kind, List.Forall₂ (Controller.KeepsGuards e.branches) (e.controllers kind)
      (e'.controllers kind)) ∧
    (∀ b ∈ e.branches, Text.TokenWord b.name → ∀ id : StateId,
      (Text.StandsIn b.name id.activeCondition ↔ b.name = toString id.index) ∧
      (Text.StandsIn b.name id.inactiveCondition ↔ b.name = toString id.index) ∧
      ¬ Text.StandsIn b.name finishedCondition) ∧
    ∀ (s : LoopState) before after id, (addLoopState s).apply before = (after, .ok id) →
      ∀ kind, ∀ t ∈ after.transitions kind, t ∈ before.transitions kind ∨ Generated t := by
  have hsound := sound_reachable hr
  obtain ⟨branches, hres, rfl⟩ := resolve_ok h
  refine ⟨fun kind => ?_, fun b hb hw id => ?_, fun s before after id hadd kind t ht =>
    generated_of_added hadd ht⟩
  · cases kind with
    | behavior => exact forall₂_map_self (Controller.keepsGuards_resolved hsound hres) _
    | render => exact forall₂_map_self (Controller.keepsGuards_resolved hsound hres) _
  · have hfree := hsound.unreserved b hb
    exact ⟨standsIn_comparison hw (by decide) hfree id, standsIn_comparison hw (by decide) hfree id,
      not_standsIn_finishedCondition hw hfree⟩

def guarded : Entity :=
  run (new "dev" "Boss" {}) [
    .createController .behavior "timing" none, .createController .render "anim" none,
    .addLoopState {
      entryCommands := some ["/say calm"], connections := ["hurt"]
      animation := some "animation.boss.idle", animationEndsWithState := false },
    .addLoopState {
      name := some "hurt", exitCommands := some ["/say hurt"]
      animation := some "animation.boss.hurt" }]

theorem guarded_keeps_its_guards : Reachable guarded ∧ ∃ e',
    resolveBranches.apply guarded = (e', .ok ()) ∧
    (∀ kind, List.Forall₂ (Controller.KeepsGuards guarded.branches) (guarded.controllers kind)
      (e'.controllers kind)) ∧
    (∀ b ∈ guarded.branches, Text.TokenWord b.name ∧
      ¬ Text.StandsIn b.name (StateId.activeCondition ⟨1⟩)) ∧
    e'.transitions .behavior = [("state_0", "query.skin_id==0"),
      ("state_1", "query.skin_id==1"), ("init", "query.skin_id!=0"),
      ("init", "query.skin_id!=1")] := by
  have hr : Reachable guarded := reachable_run (.new _ _ _) _
  have hb : guarded.branches.resolved = .ok [⟨"hurt", ⟨1⟩, [⟨0⟩]⟩] := by decide +kernel
  have hword : Text.TokenWord "hurt" := Text.tokenWord_of_ascii (by decide) (by simp)
  obtain ⟨hkeeps, hwords, -⟩ := guards_survive_unless_named hr (resolve_eq hb)
  refine ⟨hr, _, resolve_eq hb, hkeeps, fun b hm => ?_, by decide +kernel⟩
  have hm' := hm
  rw [Registry.resolved_ok.mp hb, List.map_singleton, List.mem_singleton] at hm'
  obtain rfl := hm'
  refine ⟨hword, fun hstands => ?_⟩
  have hnumber := (hwords _ hm hword ⟨1⟩).1.mp hstands
  revert hnumber
  decide +kernel

def numbered : Entity :=
  run (new "dev" "Boss" {}) [
    .createController .behavior "timing" none,
    .addLoopState { entryCommands := some ["/say zero"], connections := ["1"] },
    .addLoopState { name := some "1", entryCommands := some ["/say one"] }]

/-- A number is accepted as a name, and resolution puts the id of its state into guards. -/
theorem number_overwrites_guards : Reachable numbered ∧ ∃ e',
    resolveBranches.apply numbered = (e', .ok ()) ∧
    Generated ("state_1", "query.skin_id==1") ∧ Generated ("init", "query.skin_id!=1") ∧
    numbered.transitions .behavior = [("state_0", "query.skin_id==0"),
      ("state_1", "query.skin_id==1"), ("init", "query.skin_id!=0"),
      ("init", "query.skin_id!=1")] ∧
    e'.transitions .behavior = [("state_0", "query.skin_id==0"),
      ("state_1", "query.skin_id==state_1"), ("init", "query.skin_id!=0"),
      ("init", "query.skin_id!=state_1")] := by
  have hb : numbered.branches.resolved = .ok [⟨"1", ⟨1⟩, [⟨0⟩]⟩] := by decide +kernel
  exact ⟨reachable_run (.new _ _ _) _, _, resolve_eq hb, .enter ⟨1⟩, .leave ⟨1⟩,
    by decide +kernel, by decide +kernel⟩

end Entity
end EntityPack
