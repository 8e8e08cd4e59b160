import EntityPack.Proofs.Reference
import EntityPack.Proofs.Run
import EntityPack.Proofs.Words

/-!
# Outlines

The outline of an entity shows what is left of it when names are rewritten in ids and in the
words of commands, and remove-lists are cleared. An operation looks no deeper: what it
leaves behind has the same outline as what it would leave behind on the outline.
-/
namespace EntityPack

/-- A rewriting that is done after one pass, and makes words of words. -/
structure Settles (f : String → String) : Prop where
  idem : ∀ id, f (f id) = f id
  word : ∀ w, Text.Word w → Text.Word (f w)

section Absorption

variable {α : Type} {φ g : α → α} (hφ : ∀ a, φ (φ a) = φ a)

include hφ

theorem map_append_absorb (as added : List α) :
    (as.map φ ++ added).map φ = (as ++ added).map φ := by
  simp [hφ]

theorem map_modify_absorb (hg : ∀ a, φ (g (φ a)) = φ (g a)) (as : List α) (i : Nat) :
    ((as.map φ).modify i g).map φ = (as.modify i g).map φ := by
  refine List.ext_getElem? fun j => ?_
  simp only [List.getElem?_map, List.getElem?_modify]
  cases as[j]? with
  | none => rfl
  | some a => by_cases hij : i = j <;> simp [hij, hg, hφ]

theorem map_modifyFirst_absorb {p : α → Bool} (hp : ∀ a, p (φ a) = p a)
    (hg : ∀ a, φ (g (φ a)) = φ (g a)) (as : List α) :
    (modifyFirst p g (as.map φ)).map φ = (modifyFirst p g as).map φ := by
  induction as with
  | nil => rfl
  | cons a as ih =>
    rw [List.map_cons, modifyFirst, modifyFirst, hp]
    cases p a with
    | true => simp [hg, hφ]
    | false => simp [hφ, ih]

end Absorption

theorem Event.mapAllReferences_eq_map (f : String → String) (evs : List Event) :
    mapAllReferences f evs = evs.map (·.mapReferences f) := by
  induction evs with
  | nil => rfl
  | cons ev evs ih => rw [mapAllReferences, ih, List.map_cons]

def Event.withoutRemoves (ev : Event) : Event := { ev with remove := [] }

def Event.outline (f : String → String) (ev : Event) : Event :=
  (ev.mapReferences f).withoutRemoves

def Behavior.outline (f : String → String) (b : Behavior) : Behavior :=
  { b.rewrite f (Text.mapWords f) with events := b.events.map (·.outline f) }

def Controller.State.outline (f : String → String) (s : Controller.State) : Controller.State :=
  s.rewrite f (Text.mapWords f)

def Controller.outline (f : String → String) (c : Controller) : Controller :=
  { c with states := c.states.map (·.outline f) }

def Entity.outline (f : String → String) (e : Entity) : Entity :=
  { e with
    behavior := e.behavior.outline f
    behaviorControllers := e.behaviorControllers.map (·.outline f)
    renderControllers := e.renderControllers.map (·.outline f) }

variable {f : String → String}

theorem Event.fullId_outline (ev : Event) : (ev.outline f).fullId = ev.fullId :=
  fullId_mapReferences f ev

theorem Event.withoutRemoves_ensureRemoves (group : String) (ev : Event) :
    (ev.ensureRemoves group).withoutRemoves = ev.withoutRemoves := by
  unfold ensureRemoves
  split <;> rfl

theorem Event.outline_ensureRemoves (group : String) (ev : Event) :
    (ev.ensureRemoves group).outline f = ev.outline f := by
  cases ev
  unfold ensureRemoves
  split <;> rfl

theorem Controller.hasState_outline (id : String) (c : Controller) :
    (c.outline f).hasState id = c.hasState id := by
  rw [Bool.eq_iff_iff, hasState_iff, hasState_iff, outline, List.map_map]
  rfl

section Absorbed

variable {σ τ : String → String}

theorem Event.outline_mapReferences (hσ : ∀ id, f (σ id) = f id) (ev : Event) :
    (ev.mapReferences σ).outline f = ev.outline f := by
  have hcomp : f ∘ σ = f := funext hσ
  rw [outline, mapReferences_mapReferences, hcomp, outline]

variable (hσ : ∀ id, f (σ id) = f id)
  (hτ : ∀ text, Text.mapWords f (τ text) = Text.mapWords f text)

include hσ hτ

theorem Behavior.outline_rewrite (b : Behavior) : (b.rewrite σ τ).outline f = b.outline f := by
  simp [outline, rewrite, Function.comp_def, Event.outline_mapReferences hσ, hσ, hτ]

theorem Controller.outline_rewrite (c : Controller) : (c.rewrite σ τ).outline f = c.outline f := by
  simp [outline, rewrite, State.outline, State.rewrite, hσ, hτ]

theorem Entity.outline_rewrite (e : Entity) : (e.rewrite σ τ).outline f = e.outline f := by
  simp [outline, rewrite, Behavior.outline_rewrite hσ hτ, Controller.outline_rewrite hσ hτ]

end Absorbed

namespace Entity

theorem controllers_outline (kind : ControllerKind) (e : Entity) :
    (e.outline f).controllers kind = (e.controllers kind).map (·.outline f) := by
  cases kind <;> rfl

theorem checkIndex_outline (kind : ControllerKind) (index : Nat) (e : Entity) :
    checkIndex kind index (e.outline f) = checkIndex kind index e := by
  simp only [checkIndex, controllers_outline, List.length_map]

theorem checkFree_outline (kind : ControllerKind) (index : Nat) (state : String) (e : Entity) :
    checkFree kind index state (e.outline f) = checkFree kind index state e := by
  simp only [checkFree, controllers_outline, List.length_map, List.getElem?_map]
  cases (e.controllers kind)[index]? with
  | none => rfl
  | some c => simp only [Option.map_some, Controller.hasState_outline]; rfl

/-- Whether a loop state is accepted can be told from the outline. -/
theorem checkLoopState_outline (s : LoopState) (e : Entity) :
    checkLoopState s (e.outline f) = checkLoopState s e := by
  unfold checkLoopState
  simp only [checkIndex_outline, checkFree_outline]
  rfl

theorem outline_parts (e : Entity) {b b' : Behavior} {cs cs' ds ds' : List Controller}
    (hb : b.outline f = b'.outline f) (hc : cs.map (·.outline f) = cs'.map (·.outline f))
    (hd : ds.map (·.outline f) = ds'.map (·.outline f)) :
    ({ e with behavior := b, behaviorControllers := cs, renderControllers := ds } :
      Entity).outline f =
    ({ e with behavior := b', behaviorControllers := cs', renderControllers := ds' } :
      Entity).outline f := by
  simp only [outline, hb, hc, hd]

end Entity

section

variable (hf : Settles f)

include hf

theorem Settles.comp_idem : f ∘ f = f := funext hf.idem

theorem Settles.mapWords_idem (text : String) :
    Text.mapWords f (Text.mapWords f text) = Text.mapWords f text := by
  rw [Text.mapWords_mapWords hf.word, hf.comp_idem]

theorem Event.outline_outline (ev : Event) : (ev.outline f).outline f = ev.outline f := by
  obtain ⟨id, scope, add, remove, properties, randomizers, sequential, next⟩ := ev
  have h := Event.mapReferences_mapReferences f f
    ⟨id, scope, add, [], properties, randomizers, sequential, next⟩
  rw [hf.comp_idem] at h
  exact h

theorem Controller.State.outline_outline (s : Controller.State) :
    (s.outline f).outline f = s.outline f := by
  simp [outline, rewrite, hf.idem, hf.mapWords_idem]

theorem Controller.outline_outline (c : Controller) : (c.outline f).outline f = c.outline f := by
  simp [outline, State.outline_outline hf]

theorem Behavior.outline_outline (b : Behavior) : (b.outline f).outline f = b.outline f := by
  simp [outline, rewrite, Function.comp_def, Event.outline_outline hf, hf.idem, hf.mapWords_idem]

theorem Entity.outline_outline (e : Entity) : (e.outline f).outline f = e.outline f := by
  simp [outline, Behavior.outline_outline hf, Controller.outline_outline hf]

theorem Event.outline_edit (ev : Event) (change : Event.Edit) :
    ((ev.outline f).edit change).outline f = (ev.edit change).outline f := by
  cases change with
  | ensureRemoves group =>
    rw [edit, edit, outline_ensureRemoves, outline_ensureRemoves, outline_outline hf]
  | _ =>
    cases ev
    simp [outline, withoutRemoves, edit, mapReferences, addGroups, removeGroups, addRandomizers,
      addSequential, setProperty, setProperties, mapAllReferences_eq_map, hf.comp_idem]

theorem Behavior.outline_events (b : Behavior) {events events' : List Event}
    (h : events.map (·.outline f) = events'.map (·.outline f)) :
    ({ b.outline f with events } : Behavior).outline f =
      ({ b with events := events' } : Behavior).outline f := by
  have hb := Behavior.outline_outline hf { b with events := events' }
  unfold outline at hb ⊢
  simp only [rewrite, Behavior.mk.injEq] at hb ⊢
  simp only [hb, h, and_self]

theorem Behavior.outline_edit (b : Behavior) (c : Behavior.Edit) :
    ((b.outline f).edit c).outline f = (b.edit c).outline f := by
  cases c with
  | changeEvent id change =>
    exact Behavior.outline_events hf b (map_modifyFirst_absorb (Event.outline_outline hf)
      (fun ev => by rw [Event.fullId_outline]) (fun ev => Event.outline_edit hf ev change) b.events)
  | _ =>
    simp [outline, edit, rewrite, addControllerId, addAnimation, addProperty, addComponents,
      addGroup, addEvent, addSpawnGroups, Function.comp_def, Event.outline_outline hf, hf.idem,
      hf.mapWords_idem]

namespace Controller

theorem outline_modifyState (c : Controller) (id : String)
    (transitions : List (String × String)) :
    ((c.outline f).modifyState id (·.addTransitions transitions)).outline f =
      (c.modifyState id (·.addTransitions transitions)).outline f := by
  have hstates := map_modifyFirst_absorb (State.outline_outline hf)
    (p := (·.id == id)) (g := (·.addTransitions transitions)) (fun _ => rfl)
    (fun s => by simp [State.addTransitions, State.outline, State.rewrite, hf.idem,
      hf.mapWords_idem]) c.states
  simp only [outline, modifyState, hstates]

theorem outline_ensureState (c : Controller) (id : String) :
    ((c.outline f).ensureState id).outline f = (c.ensureState id).outline f := by
  unfold ensureState
  rw [hasState_outline]
  split
  · exact outline_outline hf c
  · simp [outline, State.outline_outline hf]

theorem outline_addStates (c : Controller) (s : State) :
    ((c.outline f).addStates [s]).1.outline f = (c.addStates [s]).1.outline f := by
  rw [addStates_single, addStates_single, hasState_outline]
  split
  · exact outline_outline hf c
  · simp [outline, State.outline_outline hf]

theorem outline_linked (id : StateId) (c : Controller) :
    ((c.outline f).linked id).outline f = (c.linked id).outline f := by
  have hensure := outline_ensureState hf { c with initial := hubState } hubState
  unfold linked
  rw [← outline_modifyState hf, ← outline_modifyState hf (Controller.ensureState _ _)]
  exact congrArg (fun c : Controller =>
    (c.modifyState hubState (·.addTransitions [(id.label, id.activeCondition)])).outline f) hensure

theorem outline_wired (spoke : State) (id : StateId) (c : Controller) :
    ((c.outline f).wired spoke id).outline f = (c.wired spoke id).outline f := by
  have hlinked := outline_linked hf id c
  simp only [outline, Controller.mk.injEq] at hlinked
  simp only [wired, outline, List.map_append, Controller.mk.injEq]
  exact ⟨hlinked.1, hlinked.2.1, congrArg (· ++ _) hlinked.2.2⟩

end Controller

namespace Entity

theorem outline_controllers (cs : List Controller) :
    (cs.map (·.outline f)).map (·.outline f) = cs.map (·.outline f) := by
  simp [Controller.outline_outline hf]

theorem outline_extend (id : StateId) (s : LoopState) (b : Behavior) :
    (s.extend id (b.outline f)).outline f = (s.extend id b).outline f := by
  have hclose : ∀ events : List Event, (modifyFirst (·.fullId == StateId.first.label)
      (·.ensureRemoves id.label) events).map (·.outline f) = events.map (·.outline f) :=
    map_modifyFirst _ (Event.outline_ensureRemoves id.label)
  unfold LoopState.extend
  split <;> simp [Behavior.outline, Behavior.rewrite, Function.comp_def, hclose,
    Event.outline_outline hf, hf.idem, hf.mapWords_idem]

theorem outline_onBehavior {g : Behavior → Behavior}
    (hg : ∀ b, (g (b.outline f)).outline f = (g b).outline f) (e : Entity) :
    ((e.outline f).onBehavior g).outline f = (e.onBehavior g).outline f :=
  outline_parts e (hg _) (outline_controllers hf _) (outline_controllers hf _)

theorem outline_setControllers (kind : ControllerKind) {cs cs' : List Controller}
    (h : cs.map (·.outline f) = cs'.map (·.outline f)) (e : Entity) :
    ((e.outline f).setControllers kind cs).outline f = (e.setControllers kind cs').outline f := by
  cases kind with
  | behavior => exact outline_parts e (Behavior.outline_outline hf _) h (outline_controllers hf _)
  | render => exact outline_parts e (Behavior.outline_outline hf _) (outline_controllers hf _) h

theorem outline_addController (kind : ControllerKind) (c : Controller) (e : Entity) :
    ((e.outline f).addController kind c).outline f = (e.addController kind c).outline f := by
  have hadd := fun cs => map_append_absorb (Controller.outline_outline hf) cs [c]
  cases kind with
  | behavior =>
    exact outline_parts e (Behavior.outline_edit hf _ (.addControllerId c.id)) (hadd _)
      (outline_controllers hf _)
  | render =>
    exact outline_parts { e with client := e.client.map (·.addController c.id) }
      (Behavior.outline_outline hf _) (outline_controllers hf _) (hadd _)

theorem outline_withLoopState (s : LoopState) (e : Entity) :
    ((e.outline f).withLoopState s).outline f = (e.withLoopState s).outline f := by
  have hwire := fun spoke (cs : List Controller) i =>
    map_modify_absorb (Controller.outline_outline hf)
      (Controller.outline_wired hf spoke e.nextState) cs i
  refine outline_parts
    { e with stateCount := e.stateCount + 1, branches := s.declare e.nextState e.branches }
    (outline_extend hf _ s _) ?_ ?_
  · unfold withCommands
    split
    · exact hwire _ _ _
    · exact outline_controllers hf _
  · unfold withAnimation
    split
    · exact hwire _ _ _
    · exact outline_controllers hf _

theorem outline_setId (id : String) (e : Entity) :
    ((e.outline f).setId id).outline f = (e.setId id).outline f := by
  have hrename : ∀ (old new : String) (cs : List Controller),
      ((cs.map (·.outline f)).map (renameController old new)).map (·.outline f) =
        (cs.map (renameController old new)).map (·.outline f) := by
    intro old new cs
    simp [renameController, Controller.outline, Controller.State.outline_outline hf]
  have hslots : ∀ (old new : String) (cs : List Controller),
      renameSlots old new (cs.map (·.outline f)) = renameSlots old new cs := by
    intro old new cs
    funext g
    rw [renameSlots, List.foldl_map]
    rfl
  have hid : (e.outline f).id = e.id := rfl
  have hrender : (e.outline f).renderControllers = e.renderControllers.map (·.outline f) := rfl
  simp only [setId, hid]
  by_cases hstem : controllerStem e.id = controllerStem id
  · rw [if_pos hstem, if_pos hstem]
    exact outline_parts
      { e with id, client := e.client.map fun g => { g with id := qualify (some e.scope) id } }
      (Behavior.outline_outline hf { e.behavior with id := qualify (some e.scope) id })
      (outline_controllers hf _) (outline_controllers hf _)
  · rw [if_neg hstem, if_neg hstem, hrender, hslots]
    exact outline_parts
      { e with
        id
        client := (e.client.map fun g => { g with id := qualify (some e.scope) id }).map
          (renameSlots (controllerStem e.id) (controllerStem id) e.renderControllers) }
      (Behavior.outline_outline hf { e.behavior with
        id := qualify (some e.scope) id
        controllerIds := e.behavior.controllerIds.map fun slot =>
          (restem? (controllerStem e.id) (controllerStem id) slot).getD slot })
      (hrename _ _ _) (hrename _ _ _)

/-- What an operation leaves behind can be told from the outline, as far as its outline goes. -/
theorem outline_after (e : Entity) {op : Operation}
    (hr : op ≠ .resolveBranches) (hb : op ≠ .build) :
    (after (e.outline f) op).outline f = (after e op).outline f := by
  cases op with
  | setId id => exact outline_setId hf id e
  | createController kind suffix initial =>
    exact outline_addController hf kind
      { id := controllerStem e.id ++ suffix, initial := initial.getD hubState } e
  | addController kind controller => exact outline_addController hf kind controller e
  | addControllerState kind index state =>
    rw [after_addControllerState, after_addControllerState, controllers_outline]
    exact outline_setControllers hf kind (map_modify_absorb (Controller.outline_outline hf)
      (Controller.outline_addStates hf · state) _ _) e
  | addLoopState s =>
    cases hc : checkLoopState s e with
    | error c =>
      rw [after_refused hc, after_refused ((checkLoopState_outline s e).trans hc)]
      exact outline_outline hf e
    | ok u =>
      rw [after_accepted (checkLoopState_ok.mp hc),
        after_accepted (checkLoopState_ok.mp ((checkLoopState_outline s e).trans hc))]
      exact outline_withLoopState hf s e
  | resolveBranches => exact (hr rfl).elim
  | build => exact (hb rfl).elim
  | editBehavior edit => exact outline_onBehavior hf (Behavior.outline_edit hf · edit) e
  | addComponents cs =>
    exact outline_onBehavior hf (Behavior.outline_edit hf · (.addComponents cs)) e
  | addGroup group => exact outline_onBehavior hf (Behavior.outline_edit hf · (.addGroup group)) e
  | addEvent event => exact outline_onBehavior hf (Behavior.outline_edit hf · (.addEvent event)) e
  | addSpawnGroups groups =>
    exact outline_onBehavior hf (Behavior.outline_edit hf · (.addSpawnGroups groups)) e
  | setScope scope => exact outline_outline hf ({ e with scope })
  | setSounds sounds => exact outline_outline hf ({ e with sounds })
  | setVariables bindings => exact outline_outline hf ({ e with bindings })
  | setVariable name value =>
    exact outline_outline hf ({ e with bindings := e.bindings.set name value })
  | setVersions versions => exact outline_outline hf ({ e with versions })
  | setClient client => exact outline_outline hf ({ e with client })
  | editClient edit => exact outline_outline hf ({ e with client := e.client.map (·.edit edit) })

end Entity

end

end EntityPack
