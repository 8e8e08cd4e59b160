import EntityPack.Proofs.ControllerIds
import EntityPack.Proofs.Rendering

/-!
# Behavior controllers in the description

The behavior file lists the ids of the behavior controllers, apart from the controllers
themselves. Operations do the same to both lists, so the slot of a position is the id of the
controller at that position, and the document of that controller has the same id as its key.
-/
namespace EntityPack

def Json.description? (document : Json) : Option Json :=
  (document.get? "minecraft:entity").bind (·.get? "description")

namespace Behavior

variable {b : Behavior} {n m : Nat} {id : String}

theorem controllerSlot_injective (h : controllerSlot n = controllerSlot m) : n = m := by
  unfold controllerSlot at h
  have hdigits := congrArg String.toList ((String.append_right_inj _).mp h)
  have hvalue := congrArg (Nat.ofDigitChars 10 · 0) hdigits
  simpa [Nat.repr] using hvalue

theorem description?_document (formatVersion : String) (b : Behavior) :
    (b.document formatVersion).description? = some b.description := by
  simp [document, Json.description?, Json.get?, Entries.get?]

theorem scripts_description (h : b.controllerIds ≠ []) : b.description.get? "scripts" =
    some (.obj [("animate", .arr ((List.range b.controllerIds.length).map fun n =>
      .obj [(controllerSlot n, .str "1")]))]) := by
  have hlisted : ¬ b.controllerIds.isEmpty = true := by simpa using h
  unfold description controllerScripts
  rw [if_neg hlisted]
  cases b.runtimeId <;> simp [Json.get?, Entries.get?]

theorem animations_description : b.description.get? "animations" =
    if b.animationSlots.isEmpty then none else some (.obj b.animationSlots) := by
  unfold description controllerScripts
  simp only [Json.get?, Entries.get?_append]
  cases b.runtimeId <;> cases b.controllerIds.isEmpty <;> cases b.animationSlots.isEmpty <;>
    cases b.properties.isEmpty <;> simp [Entries.get?]

/-- The slot of a position holds the id at that position, unless an animation bears its name. -/
theorem get?_animationSlots (hnames : ∀ a ∈ b.animations, a.id ≠ controllerSlot n)
    (hid : b.controllerIds[n]? = some id) :
    Entries.get? (controllerSlot n) b.animationSlots = some (.str id) := by
  refine Entries.get?_ofList_of_only ?_ fun v hv => ?_
  · refine List.mem_append_left _ (List.mem_map.mpr ⟨(id, n), ?_, rfl⟩)
    exact List.mem_zipIdx_iff_getElem?.mpr hid
  · rcases List.mem_append.mp hv with hv | hv
    · obtain ⟨⟨id', m⟩, hm, heq⟩ := List.mem_map.mp hv
      obtain ⟨hslot, rfl⟩ := Prod.mk.inj heq
      obtain rfl := controllerSlot_injective hslot
      have hid' : b.controllerIds[m]? = some id' := List.mem_zipIdx_iff_getElem?.mp hm
      rw [Option.some.inj (hid'.symm.trans hid)]
    · obtain ⟨a, ha, heq⟩ := List.mem_map.mp hv
      exact (hnames a ha (Prod.mk.inj heq).1).elim

theorem slot_description (hnames : ∀ a ∈ b.animations, a.id ≠ controllerSlot n)
    (hid : b.controllerIds[n]? = some id) :
    (b.description.get? "animations").bind (·.get? (controllerSlot n)) = some (.str id) := by
  have hslot := get?_animationSlots hnames hid
  have hsome : ¬ b.animationSlots.isEmpty = true := by
    intro hempty
    rw [List.isEmpty_iff.mp hempty] at hslot
    cases hslot
  rw [animations_description, if_neg hsome]
  exact hslot

end Behavior

namespace Entity

/-- The operation does not put an id into the list by hand, and adds no animation under the
name of a slot. -/
def Operation.SparesSlots : Operation → Prop
  | .editBehavior (.addControllerId _) => False
  | .editBehavior (.addAnimation a) => ∀ n, a.id ≠ Behavior.controllerSlot n
  | _ => True

structure InStep (e : Entity) : Prop where
  ids : e.behavior.controllerIds = e.controllerIds .behavior
  names : ∀ n, Behavior.controllerSlot n ∉ e.behavior.animations.map Animation.id

variable {e e' : Entity} {op : Operation} {branches : List ResolvedBranch}

theorem inStep_new (scope name : String) (o : Options) : InStep (new scope name o) :=
  ⟨rfl, fun _ hn => by cases hn⟩

theorem behaviorIds_setId (id : String) (e : Entity) :
    (setId id e).behavior.controllerIds =
      e.behavior.controllerIds.map (restemmed (controllerStem e.id) (controllerStem id)) := by
  simp only [setId]
  split
  · rename_i hstem
    rw [hstem, List.map_congr_left fun text _ => restemmed_same _ text, List.map_id']
  · rfl

theorem animations_setId (id : String) (e : Entity) :
    (setId id e).behavior.animations = e.behavior.animations := by
  simp only [setId]
  split <;> rfl

theorem behavior_withResolved (branches : List ResolvedBranch) (e : Entity) :
    (e.withResolved branches).behavior.controllerIds = e.behavior.controllerIds ∧
      (e.withResolved branches).behavior.animations.map Animation.id =
        e.behavior.animations.map Animation.id := by
  have hstitched : Branch.stitchAll branches e.behavior =
      { e.behavior with events := Branch.sew (Branch.seams branches) e.behavior.events } :=
    Branch.stitchAll_eq branches e.behavior
  simp only [withResolved, Branch.resolveBehavior, hstitched, List.map_map]
  exact ⟨trivial, rfl⟩

theorem behavior_resolved (e : Entity) :
    (after e .resolveBranches).behavior.controllerIds = e.behavior.controllerIds ∧
      (after e .resolveBranches).behavior.animations.map Animation.id =
        e.behavior.animations.map Animation.id :=
  after_resolveBranches_of (P := fun e' => e'.behavior.controllerIds = _ ∧
    e'.behavior.animations.map Animation.id = _) ⟨rfl, rfl⟩
    fun branches _ => behavior_withResolved branches e

/-- The list of the behavior file takes the same step as the behavior controllers. -/
theorem behaviorIds_after (hop : op.SparesSlots) :
    (after e op).behavior.controllerIds =
      e.behavior.controllerIds.map (e.renamed op) ++ e.newIds .behavior op := by
  have unchanged : ∀ {e' : Entity}, e'.behavior.controllerIds = e.behavior.controllerIds →
      e'.behavior.controllerIds = e.behavior.controllerIds.map (fun id => id) ++ [] :=
    fun h => by rw [h, List.map_id', List.append_nil]
  have grown : ∀ k c, (e.addController k c).behavior.controllerIds =
      e.behavior.controllerIds.map (fun id => id) ++ if k = .behavior then [c.id] else [] := by
    intro k c
    rw [List.map_id']
    cases k with
    | behavior => rfl
    | render => exact (List.append_nil _).symm
  cases op with
  | setId id => exact (behaviorIds_setId id e).trans (List.append_nil _).symm
  | createController k suffix initial => exact grown k _
  | addController k c => exact grown k c
  | addControllerState k i state =>
    rw [after_addControllerState]
    exact unchanged (by cases k <;> rfl)
  | addLoopState s =>
    exact unchanged (after_addLoopState_of (P := fun e' => e'.behavior.controllerIds = _) rfl
      fun _ => rfl)
  | resolveBranches => exact unchanged (behavior_resolved e).1
  | build =>
    rw [after_build]
    exact unchanged (behavior_resolved e).1
  | editBehavior edit =>
    cases edit with
    | addControllerId id => exact hop.elim
    | _ => exact unchanged rfl
  | _ => exact unchanged rfl

theorem animationIds_after (e : Entity) (op : Operation) :
    (after e op).behavior.animations.map Animation.id = e.behavior.animations.map Animation.id ∨
      ∃ a, op = .editBehavior (.addAnimation a) ∧
        (after e op).behavior.animations.map Animation.id =
          e.behavior.animations.map Animation.id ++ [a.id] := by
  cases op with
  | setId id =>
    refine Or.inl (congrArg (List.map Animation.id) ?_)
    exact animations_setId id e
  | createController k suffix initial => exact Or.inl (by cases k <;> rfl)
  | addController k c => exact Or.inl (by cases k <;> rfl)
  | addControllerState k i state =>
    rw [after_addControllerState]
    exact Or.inl (by cases k <;> rfl)
  | addLoopState s =>
    exact Or.inl (after_addLoopState_of (P := fun e' =>
      e'.behavior.animations.map Animation.id = _) rfl fun _ => rfl)
  | resolveBranches => exact Or.inl (behavior_resolved e).2
  | build =>
    rw [after_build]
    exact Or.inl (behavior_resolved e).2
  | editBehavior edit =>
    cases edit with
    | addAnimation a => exact Or.inr ⟨a, rfl, List.map_append⟩
    | _ => exact Or.inl rfl
  | _ => exact Or.inl rfl

theorem InStep.after (h : InStep e) (hop : op.SparesSlots) : InStep (after e op) where
  ids := by rw [behaviorIds_after hop, controllerIds_after, h.ids]
  names n := by
    rcases animationIds_after e op with heq | ⟨a, rfl, heq⟩
    · rw [heq]
      exact h.names n
    · rw [heq, List.mem_append, List.mem_singleton]
      rintro (hn | hn)
      · exact h.names n hn
      · exact hop n hn.symm

theorem inStep_run (scope name : String) (o : Options) {ops : List Operation}
    (hops : ∀ op ∈ ops, op.SparesSlots) : InStep (run (new scope name o) ops) :=
  history_induction (P := fun _ e => InStep e) (h := []) (fun hop h => h.after hop)
    (inStep_new scope name o) hops

theorem InStep.length (h : InStep e) :
    e.behavior.controllerIds.length = e.behaviorControllers.length := by
  rw [h.ids]
  exact List.length_map _

theorem InStep.resolved (h : InStep e) : InStep (e.withResolved branches) where
  ids := by rw [controllerIds_withResolved, (behavior_withResolved branches e).1, h.ids]
  names n := by
    rw [(behavior_withResolved branches e).2]
    exact h.names n

/-- The description plays a slot for every controller, and the slot of a position names the one
controller in the document at that position. -/
theorem InStep.drafts (h : InStep e) (hsome : 0 < e.behaviorControllers.length) :
    (e.drafts.behavior.description?.bind (·.get? "scripts") = some (.obj [("animate",
      .arr ((List.range e.behaviorControllers.length).map fun n =>
        .obj [(Behavior.controllerSlot n, .str "1")]))])) ∧
    ∀ (n : Nat) (c : Controller), e.behaviorControllers[n]? = some c →
      (e.drafts.behavior.description?.bind (·.get? "animations")).bind
        (·.get? (Behavior.controllerSlot n)) = some (.str c.id) ∧
      e.drafts.behaviorControllers[n]?.bind (·.get? "animation_controllers") =
        some (.obj [(c.id, c.toJson)]) := by
  have hdescription : e.drafts.behavior.description? = some e.behavior.description :=
    Behavior.description?_document e.versions.behavior e.behavior
  have hlisted : e.behavior.controllerIds ≠ [] := by
    rw [← List.length_pos_iff, h.length]
    exact hsome
  rw [hdescription, Option.bind_some, Option.bind_some, Behavior.scripts_description hlisted,
    h.length]
  refine ⟨rfl, fun n c hc => ⟨?_, ?_⟩⟩
  · refine Behavior.slot_description ?_ ?_
    · exact fun a ha hn => h.names n (hn ▸ List.mem_map_of_mem ha)
    · rw [h.ids, controllerIds, List.getElem?_map]
      exact congrArg (Option.map Controller.id) hc
  · simp [Entity.drafts, hc, Controller.document, Json.get?, Entries.get?]

/-- After every run, the behavior file lists the ids of the behavior controllers, each at the
position of its controller. So the documents of a successful build without bindings play all
controllers, and the slot of a position is the key of the controller document there. -/
theorem controllers_keep_their_slots (scope name : String) (o : Options) {ops : List Operation}
    (hops : ∀ op ∈ ops, op.SparesSlots) :
    (run (new scope name o) ops).behavior.controllerIds =
      (run (new scope name o) ops).behaviorControllers.map Controller.id ∧
    ∀ e' documents, build.apply (run (new scope name o) ops) = (e', .ok documents) →
      (run (new scope name o) ops).bindings.isEmpty = true →
      0 < (run (new scope name o) ops).behaviorControllers.length →
      documents.behavior.description?.bind (·.get? "scripts") = some (.obj [("animate",
        .arr ((List.range (run (new scope name o) ops).behaviorControllers.length).map fun n =>
          .obj [(Behavior.controllerSlot n, .str "1")]))]) ∧
      documents.behaviorControllers.length =
        (run (new scope name o) ops).behaviorControllers.length ∧
      ∀ n, n < (run (new scope name o) ops).behaviorControllers.length → ∃ c body,
        (run (new scope name o) ops).behaviorControllers[n]? = some c ∧
        (documents.behavior.description?.bind (·.get? "animations")).bind
          (·.get? (Behavior.controllerSlot n)) = some (.str c.id) ∧
        documents.behaviorControllers[n]?.bind (·.get? "animation_controllers") =
          some (.obj [(c.id, body)]) := by
  have hstep := inStep_run scope name o hops
  refine ⟨hstep.ids, fun e' documents hok hplain hsome => ?_⟩
  obtain ⟨hresolve, hdocuments⟩ := build_ok hok
  obtain ⟨branches, -, rfl⟩ := resolve_ok hresolve
  have hresolved : ((run (new scope name o) ops).withResolved branches).bindings.isEmpty = true :=
    hplain
  have hdrafts : ((run (new scope name o) ops).withResolved branches).drafts = documents :=
    Except.ok.inj ((documents_of_empty hresolved).symm.trans hdocuments)
  have hlength : ((run (new scope name o) ops).withResolved branches).behaviorControllers.length =
      (run (new scope name o) ops).behaviorControllers.length := List.length_map _
  have hlater : InStep ((run (new scope name o) ops).withResolved branches) := hstep.resolved
  obtain ⟨hscripts, hslots⟩ := hlater.drafts (hlength ▸ hsome)
  rw [← hdrafts]
  refine ⟨hlength ▸ hscripts, (List.length_map _).trans hlength, fun n hn => ?_⟩
  have hc := List.getElem?_eq_getElem hn
  have hthere : ((run (new scope name o) ops).withResolved branches).behaviorControllers[n]? =
      some (Branch.resolveController branches _) :=
    (List.getElem?_map ..).trans (congrArg _ hc)
  obtain ⟨hslot, hkey⟩ := hslots n _ hthere
  exact ⟨_, _, hc, hslot, hkey⟩

/-- The second controller comes from elsewhere. The id is changed twice, the second time to one
that begins with the first, and the animation has a slot of its own. -/
def renamedRun : List Operation := [
  .createController .behavior "timing" none,
  .addController .behavior { id := "controller.animation.shared", initial := "idle" },
  .setId "ogre",
  .createController .behavior "b_x" none,
  .setId "ogre_b",
  .addLoopState { connections := ["hurt"] },
  .addLoopState { name := some "hurt" },
  .editBehavior (.addAnimation { id := "attack" })]

theorem renamed_run_keeps_slots : (∀ op ∈ renamedRun, op.SparesSlots) ∧
    ∃ e' documents, build.apply (run (new "dev" "Boss" {}) renamedRun) = (e', .ok documents) ∧
      documents.behavior.description?.bind (·.get? "scripts") = some (.obj [("animate",
        .arr [.obj [("banco_0", .str "1")], .obj [("banco_1", .str "1")],
          .obj [("banco_2", .str "1")]])]) ∧
      ∃ body, (documents.behavior.description?.bind (·.get? "animations")).bind
          (·.get? "banco_2") = some (.str "controller.animation.ogre_b_b_x") ∧
        documents.behaviorControllers[2]?.bind (·.get? "animation_controllers") =
          some (.obj [("controller.animation.ogre_b_b_x", body)]) := by
  have hattack : ∀ n, "attack" ≠ Behavior.controllerSlot n := by
    intro n h
    have hhead := congrArg (fun text => text.toList.head?) h
    simp [Behavior.controllerSlot] at hhead
  have hspares : ∀ op ∈ renamedRun, op.SparesSlots := by
    simp [renamedRun, Operation.SparesSlots, hattack]
  have hempty : (run (new "dev" "Boss" {}) renamedRun).bindings.isEmpty = true := by decide +kernel
  have hres : (run (new "dev" "Boss" {}) renamedRun).branches.resolved =
      .ok [⟨"hurt", ⟨1⟩, [⟨0⟩]⟩] := by decide +kernel
  have hids : (run (new "dev" "Boss" {}) renamedRun).behaviorControllers.map Controller.id =
      ["controller.animation.ogre_b_timing", "controller.animation.shared",
        "controller.animation.ogre_b_b_x"] := by decide +kernel
  have hlength := congrArg List.length hids
  rw [List.length_map] at hlength
  have hbuild : build.apply (run (new "dev" "Boss" {}) renamedRun) = (_, .ok _) :=
    (build_resolved (resolve_eq hres)).trans (congrArg (Prod.mk _) (documents_of_empty hempty))
  obtain ⟨-, hshown⟩ := controllers_keep_their_slots "dev" "Boss" {} hspares
  obtain ⟨hscripts, -, hslots⟩ := hshown _ _ hbuild hempty (by rw [hlength]; decide)
  obtain ⟨c, body, hc, hslot, hkey⟩ := hslots 2 (by rw [hlength]; decide)
  have hid : c.id = "controller.animation.ogre_b_b_x" := by
    have hat := congrArg (·[2]?) hids
    rw [List.getElem?_map, hc] at hat
    exact Option.some.inj hat
  rw [hid] at hslot hkey
  rw [hlength] at hscripts
  exact ⟨hspares, _, _, hbuild, hscripts, body, hslot, hkey⟩

end Entity
end EntityPack
