import EntityPack.Proofs.ControllerIds
import EntityPack.Proofs.Entries

/-!
# Slots of render controllers under a new id

A new id of the entity renames the slots of its render controllers one controller after the
other. A text that was given its new name is taken for a controller again if a later one is
still called so. Where that does not happen, all controllers are renamed at once, and every
one of them keeps its slot and goes on playing.
-/
namespace EntityPack

namespace ClientEntity

def mapSlots (f : String → String) (g : ClientEntity) : ClientEntity :=
  { g with
    animations := g.animations.map fun slot => (f slot.1, f slot.2)
    animate := g.animate.map fun entry => (f entry.1, entry.2) }

theorem mapSlots_id (g : ClientEntity) : g.mapSlots (fun text => text) = g := by
  simp [mapSlots]

structure Plays (g : ClientEntity) (id : String) : Prop where
  slot : (id, id) ∈ g.animations
  played : (id, none) ∈ g.animate

def Plain (g : ClientEntity) : Prop := ∀ slot ∈ g.animations, slot.2 = slot.1

variable {g : ClientEntity} {id name target : String}

theorem Plays.mapSlots (h : g.Plays id) (f : String → String) : (g.mapSlots f).Plays (f id) where
  slot := List.mem_map.mpr ⟨_, h.slot, rfl⟩
  played := List.mem_map.mpr ⟨_, h.played, rfl⟩

theorem Plain.mapSlots (h : g.Plain) (f : String → String) : (g.mapSlots f).Plain := by
  intro slot hslot
  obtain ⟨old, hold, rfl⟩ := List.mem_map.mp hslot
  exact congrArg f (h old hold)

theorem Plays.addAnimation (h : g.Plays id) (hname : name = target ∨ name ≠ id) :
    (g.addAnimation name target).Plays id where
  slot := by
    rcases eq_or_ne name id with rfl | hne
    · obtain rfl := hname.resolve_right (· rfl)
      exact Entries.mem_insert_self ..
    · exact Entries.mem_insert_of_ne h.slot hne.symm
  played := h.played

theorem Plain.addAnimation (h : g.Plain) (hname : name = target) :
    (g.addAnimation name target).Plain := by
  intro slot hslot
  rcases Entries.mem_insert hslot with rfl | hslot
  · exact hname.symm
  · exact h slot hslot

theorem Plays.addAnimate (h : g.Plays id) (name : String) (condition : Option String) :
    (g.addAnimate name condition).Plays id where
  slot := h.slot
  played := List.mem_append_left _ h.played

theorem Plays.addController (h : g.Plays id) (name : String) : (g.addController name).Plays id :=
  (h.addAnimation (Or.inl rfl)).addAnimate name none

theorem plays_addController (id : String) (g : ClientEntity) : (g.addController id).Plays id where
  slot := Entries.mem_insert_self ..
  played := List.mem_append_right _ (List.mem_singleton.mpr rfl)

/-- Only what is added under the name of a controller can take its slot away. -/
theorem Plays.edit {change : Edit} (h : g.Plays id)
    (hname : ∀ name target, change = .addAnimation name target → name = target ∨ name ≠ id) :
    (g.edit change).Plays id := by
  cases change with
  | addAnimation name target => exact h.addAnimation (hname name target rfl)
  | addAnimate name condition => exact h.addAnimate name condition
  | addController name => exact h.addController name
  | _ => exact ⟨h.slot, h.played⟩

theorem Plain.edit {change : Edit} (h : g.Plain)
    (hname : ∀ name target, change = .addAnimation name target → name = target) :
    (g.edit change).Plain := by
  cases change with
  | addAnimation name target => exact h.addAnimation (hname name target rfl)
  | addController name => exact h.addAnimation rfl
  | _ => exact h

end ClientEntity

namespace Entity

def inTurn (old new : String) (ids : List String) (text : String) : String :=
  ids.foldl (fun text id => if text = id then restemmed old new id else text) text

def atOnce (old new : String) (ids : List String) (text : String) : String :=
  if text ∈ ids then restemmed old new text else text

/-- No controller is given the id of a later one that is renamed as well. -/
def Orderly (e : Entity) (id : String) : Prop :=
  controllerStem e.id ≠ controllerStem id → (e.controllerIds .render).Pairwise fun earlier later =>
    restem? (controllerStem e.id) (controllerStem id) earlier = some later →
      restem? (controllerStem e.id) (controllerStem id) later = none

instance (e : Entity) (id : String) : Decidable (e.Orderly id) :=
  inferInstanceAs (Decidable (_ → List.Pairwise _ _))

section Turns

variable {old new text : String} {ids : List String}

theorem inTurn_cons (id : String) (ids : List String) (text : String) :
    inTurn old new (id :: ids) text =
      inTurn old new ids (if text = id then restemmed old new id else text) := rfl

theorem restemmed_length {text' : String} (h : restem? old new text = some text') :
    text'.length + old.length = text.length + new.length := by
  obtain ⟨suffix, rfl, rfl⟩ := restem?_eq_some.mp h
  rw [String.length_append, String.length_append]
  omega

theorem inTurn_eq_atOnce (h : ids.Pairwise fun earlier later =>
      restem? old new earlier = some later → restem? old new later = none) :
    inTurn old new ids = atOnce old new ids := by
  funext text
  induction ids generalizing text with
  | nil => rfl
  | cons id ids ih =>
    obtain ⟨hfirst, hrest⟩ := List.pairwise_cons.mp h
    rw [inTurn_cons, ih hrest, atOnce, atOnce]
    by_cases htext : text = id
    · subst htext
      rw [if_pos rfl, if_pos (List.mem_cons_self ..)]
      split
      · rename_i hlater
        cases hmoved : restem? old new text with
        | none => rw [restemmed_eq_self hmoved, restemmed_eq_self hmoved]
        | some text' =>
          rw [restemmed_eq_of_some hmoved] at hlater ⊢
          exact restemmed_eq_self (hfirst text' hlater hmoved)
      · rfl
    · simp [htext]

/-- Every turn of a text changes its length by the same amount. -/
theorem inTurn_turns (ids : List String) (text : String) : ∃ turns,
    (inTurn old new ids text).length + turns * old.length =
      text.length + turns * new.length ∧
    (text ∈ ids → (restem? old new text).isSome → 0 < turns) := by
  induction ids generalizing text with
  | nil => exact ⟨0, by rw [Nat.zero_mul, Nat.zero_mul]; rfl, fun hm => by cases hm⟩
  | cons id ids ih =>
    rw [inTurn_cons]
    by_cases htext : text = id
    · subst htext
      rw [if_pos rfl]
      cases hmoved : restem? old new text with
      | none =>
        obtain ⟨turns, hlength, -⟩ := ih text
        rw [restemmed_eq_self hmoved]
        exact ⟨turns, hlength, fun _ hsome => by cases hsome⟩
      | some text' =>
        obtain ⟨turns, hlength, -⟩ := ih text'
        have hmove := restemmed_length hmoved
        rw [restemmed_eq_of_some hmoved]
        refine ⟨turns + 1, ?_, fun _ _ => Nat.succ_pos turns⟩
        rw [Nat.add_mul, Nat.add_mul]
        omega
    · rw [if_neg htext]
      obtain ⟨turns, hlength, hpos⟩ := ih text
      exact ⟨turns, hlength, fun hm => hpos ((List.mem_cons.mp hm).resolve_left htext)⟩

/-- A controller whose new name is a later controller's old one has more than one turn. -/
theorem inTurn_twice {text' : String} (hsub : [text, text'].Sublist ids)
    (hmoved : restem? old new text = some text') (hagain : (restem? old new text').isSome) :
    ∃ turns, (inTurn old new ids text).length + (turns + 2) * old.length =
      text.length + (turns + 2) * new.length := by
  induction ids with
  | nil => cases hsub
  | cons id ids ih =>
    rw [inTurn_cons]
    by_cases htext : text = id
    · subst htext
      have hlater : text' ∈ ids := by
        cases hsub with
        | cons _ hrest => exact hrest.subset (by simp)
        | cons_cons _ hrest => exact hrest.subset (by simp)
      obtain ⟨turns, hlength, hpos⟩ : ∃ turns,
          (inTurn old new ids text').length + turns * old.length =
            text'.length + turns * new.length ∧
          (text' ∈ ids → (restem? old new text').isSome → 0 < turns) := inTurn_turns ids text'
      have hmove := restemmed_length hmoved
      -- The first turn makes `text'` of the text, and that has a turn of its own to come.
      obtain ⟨more, rfl⟩ := Nat.exists_eq_succ_of_ne_zero (Nat.ne_of_gt (hpos hlater hagain))
      rw [if_pos rfl, restemmed_eq_of_some hmoved]
      refine ⟨more, ?_⟩
      simp only [Nat.succ_eq_add_one, Nat.add_mul] at hlength ⊢
      omega
    · rw [if_neg htext]
      cases hsub with
      | cons _ hrest => exact ih hrest
      | cons_cons _ _ => exact (htext rfl).elim

/-- If every controller ends with the name it should have, none had a second turn. -/
theorem pairwise_of_inTurn (hne : old ≠ new)
    (h : ∀ id ∈ ids, inTurn old new ids id = restemmed old new id) :
    ids.Pairwise fun earlier later =>
      restem? old new earlier = some later → restem? old new later = none := by
  refine List.pairwise_iff_forall_sublist.mpr fun {earlier later} hsub hmoved => ?_
  by_contra hagain
  obtain ⟨turns, hlength⟩ := inTurn_twice hsub hmoved (Option.isSome_iff_ne_none.mpr hagain)
  rw [h earlier (hsub.subset (by simp)), restemmed_eq_of_some hmoved] at hlength
  have hmove := restemmed_length hmoved
  -- More turns than one leave the length of one turn only if a turn changes no length.
  have hsame : old.length = new.length := by
    have hturns : (turns + 1) * old.length = (turns + 1) * new.length := by
      simp only [Nat.add_mul] at hlength ⊢
      omega
    exact Nat.eq_of_mul_eq_mul_left (Nat.succ_pos turns) hturns
  -- Stems of the same length that begin the same text are equal.
  obtain ⟨later', hlater'⟩ := Option.ne_none_iff_exists'.mp hagain
  obtain ⟨suffix, -, hnew⟩ := restem?_eq_some.mp hmoved
  obtain ⟨suffix', hold, -⟩ := restem?_eq_some.mp hlater'
  have htexts := congrArg String.toList (hold.symm.trans hnew)
  rw [String.toList_append, String.toList_append] at htexts
  rw [← String.length_toList, ← String.length_toList] at hsame
  exact hne (String.toList_inj.mp (List.append_inj_left htexts hsame))

theorem inTurn_same (stem : String) (ids : List String) :
    inTurn stem stem ids = fun text => text := by
  funext text
  induction ids with
  | nil => rfl
  | cons id ids ih => rw [inTurn_cons, restemmed_same, ite_eq_right_iff.mpr Eq.symm, ih]

end Turns

variable {e e' : Entity} {op : Operation} {id : String} {g : ClientEntity}

theorem renameSlots_eq (old new : String) (cs : List Controller) (g : ClientEntity) :
    renameSlots old new cs g = g.mapSlots (inTurn old new (cs.map Controller.id)) := by
  induction cs generalizing g with
  | nil => exact g.mapSlots_id.symm
  | cons c cs ih =>
    have hstep : renameSlots old new (c :: cs) g = renameSlots old new cs
        (g.mapSlots fun text => if text = c.id then restemmed old new c.id else text) := by
      rw [renameSlots, List.foldl_cons]
      cases hmoved : restem? old new c.id with
      | none =>
        have hsame : (fun text => if text = c.id then restemmed old new c.id else text) =
            fun text => text := by
          funext text
          split
          · rename_i htext
            rw [restemmed_eq_self hmoved, htext]
          · rfl
        rw [hsame, ClientEntity.mapSlots_id]
        rfl
      | some id =>
        rw [restemmed_eq_of_some hmoved]
        rfl
    rw [hstep, ih]
    simp [ClientEntity.mapSlots, Function.comp_def, inTurn_cons]

def renamedClient (e : Entity) (id : String) (g : ClientEntity) : ClientEntity :=
  { g with id := qualify (some e.scope) id }.mapSlots
    (inTurn (controllerStem e.id) (controllerStem id) (e.controllerIds .render))

theorem client_setId (id : String) (e : Entity) :
    (setId id e).client = e.client.map (e.renamedClient id) := by
  unfold renamedClient
  by_cases hstem : controllerStem e.id = controllerStem id
  · rw [hstem, inTurn_same]
    simp only [setId, if_pos hstem, ClientEntity.mapSlots_id]
  · simp only [setId, if_neg hstem, Option.map_map]
    congr 1
    funext g
    exact renameSlots_eq _ _ _ _

def Connected (e : Entity) : Prop :=
  ∃ g, e.client = some g ∧ ∀ id ∈ e.controllerIds .render, g.Plays id

theorem inTurn_orderly (h : e.Orderly id) :
    inTurn (controllerStem e.id) (controllerStem id) (e.controllerIds .render) =
      atOnce (controllerStem e.id) (controllerStem id) (e.controllerIds .render) := by
  by_cases hstem : controllerStem e.id = controllerStem id
  · rw [hstem, inTurn_same]
    funext text
    rw [atOnce, restemmed_same, ite_self]
  · exact inTurn_eq_atOnce (h hstem)

def RenamesAtOnce (e : Entity) (id : String) : Prop :=
  (setId id e).client = e.client.map fun g =>
    { g with id := qualify (some e.scope) id }.mapSlots
      (atOnce (controllerStem e.id) (controllerStem id) (e.controllerIds .render))

/-- Where all controllers have their slots, a second turn for one of them shows. -/
theorem renamesAtOnce_iff (hc : Connected e) : e.RenamesAtOnce id ↔ e.Orderly id := by
  obtain ⟨g, hg, hplays⟩ := hc
  rw [RenamesAtOnce, client_setId]
  constructor
  · intro hsame hstem
    -- Every controller has a slot, so the two ways agree on its id.
    refine pairwise_of_inTurn hstem fun id' hid => ?_
    rw [hg, Option.map_some, Option.map_some] at hsame
    have hslots := congrArg ClientEntity.animations (Option.some.inj hsame)
    have hslot := List.map_inj_left.mp hslots (id', id') (hplays id' hid).slot
    have hname := (Prod.mk.inj hslot).1
    rw [atOnce, if_pos hid] at hname
    exact hname
  · intro horderly
    unfold renamedClient
    rw [inTurn_orderly horderly]

/-- Stems of which none begins with the other leave no room for a second turn. -/
theorem orderly_of_stems (h : ¬ (controllerStem e.id).toList <+: (controllerStem id).toList)
    (h' : ¬ (controllerStem id).toList <+: (controllerStem e.id).toList) : e.Orderly id := by
  intro _
  refine List.pairwise_of_forall fun {earlier later} hmoved => ?_
  by_contra hagain
  obtain ⟨later', hlater'⟩ := Option.ne_none_iff_exists'.mp hagain
  obtain ⟨suffix, -, hnew⟩ := restem?_eq_some.mp hmoved
  obtain ⟨suffix', hold, -⟩ := restem?_eq_some.mp hlater'
  have htexts := congrArg String.toList (hold.symm.trans hnew)
  rw [String.toList_append, String.toList_append] at htexts
  -- The id after the first turn begins with both stems.
  rcases List.prefix_or_prefix_of_prefix (List.prefix_append _ suffix'.toList)
    (htexts ▸ List.prefix_append _ suffix.toList) with hp | hp
  · exact h hp
  · exact h' hp

def redrawn (e : Entity) : Operation → ClientEntity → ClientEntity
  | .setId id => e.renamedClient id
  | .createController .render suffix _ => (·.addController (controllerStem e.id ++ suffix))
  | .addController .render c => (·.addController c.id)
  | .editClient edit => (·.edit edit)
  | _ => fun g => g

theorem client_resolved (e : Entity) : (after e .resolveBranches).client = e.client :=
  after_resolveBranches_of (P := fun e' => e'.client = e.client) rfl fun _ _ => rfl

theorem client_after (e : Entity) (hop : ∀ client, op ≠ .setClient client) :
    (after e op).client = e.client.map (e.redrawn op) := by
  have unchanged : ∀ {client : Option ClientEntity}, client = e.client →
      client = e.client.map fun g => g :=
    fun h => by rw [h, Option.map_id']
  cases op with
  | setId id => exact client_setId id e
  | createController kind suffix initial =>
    cases kind with
    | behavior => exact unchanged rfl
    | render => rfl
  | addController kind c =>
    cases kind with
    | behavior => exact unchanged rfl
    | render => rfl
  | addControllerState kind index state =>
    rw [after_addControllerState]
    exact unchanged (by cases kind <;> rfl)
  | addLoopState s =>
    exact unchanged (after_addLoopState_of (P := fun e' => e'.client = e.client) rfl fun _ => rfl)
  | resolveBranches => exact unchanged (client_resolved e)
  | build =>
    rw [after_build]
    exact unchanged (client_resolved e)
  | setClient client => exact (hop client rfl).elim
  | editClient edit => rfl
  | _ => exact unchanged rfl

/-- A new id is orderly, and what is added to the slots by hand leaves those of the render
controllers alone. -/
def Spares (e : Entity) : Operation → Prop
  | .setId id => e.Orderly id
  | .setClient _ => False
  | .editClient (.addAnimation name target) => name = target ∨ name ∉ e.controllerIds .render
  | _ => True

theorem Spares.ne_setClient (h : e.Spares op) (client : Option ClientEntity) :
    op ≠ .setClient client := by
  rintro rfl
  exact h

theorem plays_redrawn (hs : e.Spares op) (hm : id ∈ e.controllerIds .render) (h : g.Plays id) :
    (e.redrawn op g).Plays (e.renamed op id) := by
  cases op with
  | setId new =>
    have hplays := h.mapSlots
      (inTurn (controllerStem e.id) (controllerStem new) (e.controllerIds .render))
    have hname : inTurn (controllerStem e.id) (controllerStem new) (e.controllerIds .render) id =
        restemmed (controllerStem e.id) (controllerStem new) id := by
      rw [inTurn_orderly hs, atOnce, if_pos hm]
    rw [hname] at hplays
    exact ⟨hplays.slot, hplays.played⟩
  | createController kind suffix initial =>
    cases kind with
    | behavior => exact h
    | render => exact h.addController _
  | addController kind c =>
    cases kind with
    | behavior => exact h
    | render => exact h.addController _
  | editClient edit =>
    refine h.edit fun name target heq => ?_
    subst heq
    exact hs.imp_right fun hno heq => hno (heq ▸ hm)
  | _ => exact h

theorem plays_new (hm : id ∈ e.newIds .render op) : (e.redrawn op g).Plays id := by
  cases op with
  | createController kind suffix initial =>
    cases kind with
    | behavior => cases hm
    | render =>
      obtain rfl := List.mem_singleton.mp hm
      exact ClientEntity.plays_addController _ g
  | addController kind c =>
    cases kind with
    | behavior => cases hm
    | render =>
      obtain rfl := List.mem_singleton.mp hm
      exact ClientEntity.plays_addController _ g
  | _ => cases hm

theorem Connected.after (hc : Connected e) (hs : e.Spares op) : Connected (after e op) := by
  obtain ⟨g, hg, hplays⟩ := hc
  refine ⟨e.redrawn op g, ?_, fun id hid => ?_⟩
  · rw [client_after e hs.ne_setClient, hg, Option.map_some]
  · rw [controllerIds_after] at hid
    rcases List.mem_append.mp hid with hid | hid
    · obtain ⟨old, hold, rfl⟩ := List.mem_map.mp hid
      exact plays_redrawn hs hold (hplays old hold)
    · exact plays_new hid

theorem plain_redrawn (h : g.Plain)
    (hop : ∀ name target, op = .editClient (.addAnimation name target) → name = target) :
    (e.redrawn op g).Plain := by
  cases op with
  | setId id =>
    have hplain := h.mapSlots
      (inTurn (controllerStem e.id) (controllerStem id) (e.controllerIds .render))
    exact hplain
  | createController kind suffix initial =>
    cases kind with
    | behavior => exact h
    | render => exact h.addAnimation rfl
  | addController kind c =>
    cases kind with
    | behavior => exact h
    | render => exact h.addAnimation rfl
  | editClient edit => exact h.edit fun name target heq => hop name target (congrArg _ heq)
  | _ => exact h

def SparesAll (e : Entity) : List Operation → Prop
  | [] => True
  | op :: ops => e.Spares op ∧ (after e op).SparesAll ops

theorem connected_new (scope name : String) {o : Options} (ho : o.graphics = true) :
    Connected (new scope name o) :=
  ⟨_, if_pos ho, fun id hid => by cases hid⟩

theorem Connected.run {ops : List Operation} (hc : Connected e) (hs : e.SparesAll ops) :
    Connected (run e ops) := by
  induction ops generalizing e with
  | nil => exact hc
  | cons op ops ih => exact ih (hc.after hs.1) hs.2

theorem plain_run {ops : List Operation} (hg : ∃ g, e.client = some g ∧ g.Plain)
    (hs : e.SparesAll ops)
    (hops : ∀ name target, .editClient (.addAnimation name target) ∈ ops → name = target) :
    ∃ g, (run e ops).client = some g ∧ g.Plain := by
  induction ops generalizing e with
  | nil => exact hg
  | cons op ops ih =>
    obtain ⟨g, hg, hplain⟩ := hg
    refine ih ⟨e.redrawn op g, ?_, ?_⟩ hs.2 fun name target hm =>
      hops name target (List.mem_cons_of_mem _ hm)
    · rw [client_after e hs.1.ne_setClient, hg, Option.map_some]
    · refine plain_redrawn hplain fun name target heq => ?_
      subst heq
      exact hops name target (List.mem_cons_self ..)

/-- Along a run in which no controller is given the id of a later one, every render controller
keeps a slot that maps its id to itself, and is played. A new id then renames the slots at once
exactly if it gives no controller the id of a later one, for which it is enough that none of
the two stems begins with the other. -/
theorem orderly_ids_keep_controllers_connected (scope name : String) {o : Options}
    (ho : o.graphics = true) {ops : List Operation} (hops : (new scope name o).SparesAll ops) :
    (∃ g, (run (new scope name o) ops).client = some g ∧
      (∀ c ∈ (run (new scope name o) ops).renderControllers, g.Plays c.id) ∧
      ((∀ name target, .editClient (.addAnimation name target) ∈ ops → name = target) →
        g.Plain)) ∧
    ∀ id, ((run (new scope name o) ops).RenamesAtOnce id ↔
        (run (new scope name o) ops).Orderly id) ∧
      (¬ (controllerStem (run (new scope name o) ops).id).toList <+: (controllerStem id).toList →
        ¬ (controllerStem id).toList <+: (controllerStem (run (new scope name o) ops).id).toList →
        (run (new scope name o) ops).Orderly id) := by
  have hconnected := (connected_new scope name ho).run hops
  refine ⟨?_, fun id => ⟨renamesAtOnce_iff hconnected, orderly_of_stems⟩⟩
  obtain ⟨g, hg, hplays⟩ := hconnected
  refine ⟨g, hg, fun c hc => hplays c.id (List.mem_map_of_mem hc), fun hplain => ?_⟩
  obtain ⟨g', hg', hslots⟩ := plain_run ⟨_, if_pos ho, fun slot hslot => by cases hslot⟩ hops hplain
  rw [hg] at hg'
  exact Option.some.inj hg' ▸ hslots

/-- The longer suffix comes first, so that its new name is no later controller's. -/
def longerSuffixFirst : List Operation := [
  .createController .render "b_x" none,
  .createController .render "x" none,
  .editClient (.addAnimation "walk" "animation.golem.walk"),
  .addController .render { id := "controller.animation.shared", initial := "idle" },
  .setId "golem_b",
  .setId "ogre"]

theorem longer_suffix_first_stays_connected :
    (new "dev" "Boss" { id := some "golem", graphics := true }).SparesAll longerSuffixFirst ∧ ∃ g,
      (run (new "dev" "Boss" { id := some "golem", graphics := true }) longerSuffixFirst).client =
        some g ∧
      g.Plays "controller.animation.ogre_b_x" ∧ g.Plays "controller.animation.ogre_x" ∧
      g.Plays "controller.animation.shared" ∧
      (run (new "dev" "Boss" { id := some "golem", graphics := true })
        longerSuffixFirst).RenamesAtOnce "golem" := by
  have hspares : (new "dev" "Boss" { id := some "golem", graphics := true }).SparesAll
      longerSuffixFirst := by
    refine ⟨trivial, trivial, Or.inr ?_, trivial, ?_, ?_, trivial⟩
    · decide +kernel
    · unfold Spares
      decide +kernel
    · unfold Spares
      decide +kernel
  obtain ⟨⟨g, hg, hplays, -⟩, hnext⟩ :=
    orderly_ids_keep_controllers_connected "dev" "Boss" rfl hspares
  have hids : (run (new "dev" "Boss" { id := some "golem", graphics := true })
      longerSuffixFirst).renderControllers.map Controller.id = ["controller.animation.ogre_b_x",
        "controller.animation.ogre_x", "controller.animation.shared"] := by decide +kernel
  have hplayed : ∀ id ∈ ["controller.animation.ogre_b_x", "controller.animation.ogre_x",
      "controller.animation.shared"], g.Plays id := by
    intro id hid
    rw [← hids] at hid
    obtain ⟨c, hc, rfl⟩ := List.mem_map.mp hid
    exact hplays c hc
  exact ⟨hspares, g, hg, hplayed _ (by decide), hplayed _ (by decide), hplayed _ (by decide),
    (hnext "golem").1.mpr (by decide +kernel)⟩

def longerSuffixLast : List Operation := [
  .createController .render "x" none,
  .createController .render "b_x" none,
  .setId "golem_b"]

/-- A new id that begins with the old one can leave a controller without its slot. -/
theorem longer_suffix_last_loses_a_slot :
    (run (new "dev" "Boss" { id := some "golem", graphics := true })
      longerSuffixLast).renderControllers.map Controller.id =
        ["controller.animation.golem_b_x", "controller.animation.golem_b_b_x"] ∧ ∃ g,
    (run (new "dev" "Boss" { id := some "golem", graphics := true })
      longerSuffixLast).client = some g ∧
      g.animations.map Prod.fst =
        ["controller.animation.golem_b_b_x", "controller.animation.golem_b_b_x"] ∧
      ¬ g.Plays "controller.animation.golem_b_x" := by
  have hclient : ∃ g, (run (new "dev" "Boss" { id := some "golem", graphics := true })
      longerSuffixLast).client = some g := Option.isSome_iff_exists.mp (by decide +kernel)
  obtain ⟨g, hg⟩ := hclient
  have hslots : ((run (new "dev" "Boss" { id := some "golem", graphics := true })
      longerSuffixLast).client.map fun g => g.animations.map Prod.fst) =
        some ["controller.animation.golem_b_b_x", "controller.animation.golem_b_b_x"] := by
    decide +kernel
  rw [hg, Option.map_some] at hslots
  have hnames := Option.some.inj hslots
  refine ⟨by decide +kernel, g, hg, hnames, fun hplays => ?_⟩
  have hname := List.mem_map_of_mem (f := Prod.fst) hplays.slot
  rw [hnames] at hname
  revert hname
  decide

end Entity
end EntityPack
