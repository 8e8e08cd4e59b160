import EntityPack.Proofs.Run

/-!
# Ids of controllers along a run

An operation does two things to the ids of controllers, and the same for every controller of
a kind: a new id of the entity replaces the stem of those that begin with the old one, and a
new controller brings its id to the end.
-/
namespace EntityPack

namespace Controller

theorem id_wired (spoke : State) (k : StateId) (c : Controller) : (c.wired spoke k).id = c.id := by
  unfold wired linked modifyState ensureState
  split <;> rfl

theorem id_addStates (s : State) (c : Controller) : (c.addStates [s]).1.id = c.id := by
  rw [addStates_single]
  split <;> rfl

end Controller

namespace Entity

def restemmed (old new text : String) : String := (restem? old new text).getD text

def controllerIds (kind : ControllerKind) (e : Entity) : List String :=
  (e.controllers kind).map Controller.id

/-- What an operation makes of the id of a controller. -/
def renamed (e : Entity) : Operation → String → String
  | .setId id => restemmed (controllerStem e.id) (controllerStem id)
  | _ => fun id => id

def newIds (kind : ControllerKind) (e : Entity) : Operation → List String
  | .createController k suffix _ => if k = kind then [controllerStem e.id ++ suffix] else []
  | .addController k c => if k = kind then [c.id] else []
  | _ => []

variable {e : Entity} {kind : ControllerKind} {old new text text' : String}

theorem restem?_eq_some :
    restem? old new text = some text' ↔ ∃ suffix, text = old ++ suffix ∧ text' = new ++ suffix := by
  unfold restem?
  constructor
  · intro h
    split at h
    · rename_i hprefix
      obtain ⟨rest, hrest⟩ := List.isPrefixOf_iff_prefix.mp hprefix
      refine ⟨String.ofList rest, ?_, ?_⟩
      · rw [← String.toList_inj, String.toList_append, String.toList_ofList, hrest]
      · rw [← Option.some.inj h, ← hrest, ← String.length_toList, List.drop_left]
    · cases h
  · rintro ⟨suffix, rfl, rfl⟩
    have hprefix : old.toList.isPrefixOf (old ++ suffix).toList = true := by
      rw [String.toList_append, List.isPrefixOf_iff_prefix]
      exact List.prefix_append _ _
    rw [if_pos hprefix, String.toList_append, ← String.length_toList, List.drop_left,
      String.ofList_toList]

theorem restemmed_eq_self (h : restem? old new text = none) : restemmed old new text = text := by
  rw [restemmed, h, Option.getD_none]

theorem restemmed_eq_of_some (h : restem? old new text = some text') :
    restemmed old new text = text' := by
  rw [restemmed, h, Option.getD_some]

theorem restemmed_same (stem text : String) : restemmed stem stem text = text := by
  cases h : restem? stem stem text with
  | none => exact restemmed_eq_self h
  | some text' =>
    obtain ⟨suffix, rfl, rfl⟩ := restem?_eq_some.mp h
    exact restemmed_eq_of_some h

theorem controllerIds_setControllers {kind' : ControllerKind} {cs : List Controller}
    (h : cs.map Controller.id = e.controllerIds kind') :
    (e.setControllers kind' cs).controllerIds kind = e.controllerIds kind := by
  cases kind' <;> cases kind <;> first | exact h | rfl

theorem controllerIds_addController (kind' kind : ControllerKind) (c : Controller) (e : Entity) :
    (e.addController kind' c).controllerIds kind =
      e.controllerIds kind ++ if kind' = kind then [c.id] else [] := by
  cases kind' <;> cases kind <;> simp [controllerIds, controllers, addController]

theorem controllerIds_setId (id : String) (e : Entity) (kind : ControllerKind) :
    (setId id e).controllerIds kind =
      (e.controllerIds kind).map (restemmed (controllerStem e.id) (controllerStem id)) := by
  simp only [setId]
  split
  · rename_i hstem
    rw [hstem, List.map_congr_left fun text _ => restemmed_same _ text, List.map_id']
    cases kind <;> rfl
  · cases kind <;> simp [controllerIds, controllers, renameController, restemmed]

theorem controllerIds_withLoopState (s : LoopState) (e : Entity) (kind : ControllerKind) :
    (e.withLoopState s).controllerIds kind = e.controllerIds kind := by
  refine List.ext_getElem? fun i => ?_
  unfold controllerIds
  rw [List.getElem?_map, List.getElem?_map, controllers_withLoopState]
  split
  · cases (e.controllers kind)[i]? with
    | none => rfl
    | some c => exact congrArg some (Controller.id_wired _ _ c)
  · rfl

theorem controllerIds_withResolved (branches : List ResolvedBranch) (e : Entity)
    (kind : ControllerKind) :
    (e.withResolved branches).controllerIds kind = e.controllerIds kind := by
  cases kind <;> simp [controllerIds, controllers, withResolved, Branch.resolveController]

theorem controllerIds_resolved (e : Entity) (kind : ControllerKind) :
    (after e .resolveBranches).controllerIds kind = e.controllerIds kind :=
  after_resolveBranches_of (P := fun e' => e'.controllerIds kind = e.controllerIds kind) rfl
    fun branches _ => controllerIds_withResolved branches e kind

/-- Controllers are renamed or added, and none is lost. -/
theorem controllerIds_after (e : Entity) (op : Operation) (kind : ControllerKind) :
    (after e op).controllerIds kind =
      (e.controllerIds kind).map (e.renamed op) ++ e.newIds kind op := by
  have grown : ∀ {e' : Entity} {ids : List String},
      e'.controllerIds kind = e.controllerIds kind ++ ids →
      e'.controllerIds kind = (e.controllerIds kind).map (fun id => id) ++ ids :=
    fun h => by rw [h, List.map_id']
  have unchanged : ∀ {e' : Entity}, e'.controllerIds kind = e.controllerIds kind →
      e'.controllerIds kind = (e.controllerIds kind).map (fun id => id) ++ [] :=
    fun h => grown (h.trans (List.append_nil _).symm)
  cases op with
  | setId id => exact (controllerIds_setId id e kind).trans (List.append_nil _).symm
  | createController k suffix initial => exact grown (controllerIds_addController k kind _ e)
  | addController k c => exact grown (controllerIds_addController k kind c e)
  | addControllerState k i state =>
    rw [after_addControllerState]
    exact unchanged (controllerIds_setControllers (map_modify (Controller.id_addStates state) _ i))
  | addLoopState s =>
    exact unchanged (after_addLoopState_of (P := fun e' => e'.controllerIds kind = _) rfl
      fun _ => controllerIds_withLoopState s e kind)
  | resolveBranches => exact unchanged (controllerIds_resolved e kind)
  | build =>
    rw [after_build]
    exact unchanged (controllerIds_resolved e kind)
  | _ => exact unchanged (by cases kind <;> rfl)

end Entity
end EntityPack
