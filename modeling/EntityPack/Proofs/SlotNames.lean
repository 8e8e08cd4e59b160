import EntityPack.Proofs.RenamedSlots
import Mathlib.Data.List.Nodup

/-!
# Names of slots

Filling a slot changes the first one of its name, whereas a document shows the last. Both are the
same slot as long as names are distinct, which only a new id of the entity can end: it renames the
slots of render controllers and does not look at the other ones.
-/
namespace EntityPack

namespace ClientEntity

inductive SlotKind where
  | animations
  | geometry
  | textures
  | particles
  deriving DecidableEq

def SlotKind.field : SlotKind → String
  | .animations => "animations"
  | .geometry => "geometry"
  | .textures => "textures"
  | .particles => "particle_effects"

def SlotKind.fill (kind : SlotKind) (name text : String) : Edit :=
  match kind with
  | .animations => .addAnimation name text
  | .geometry => .addGeometry name text
  | .textures => .addTexture name text
  | .particles => .addParticle name text

def SlotKind.target (kind : SlotKind) (text : String) : String :=
  match kind with
  | .geometry => geometryPath text
  | .textures => texturePath text
  | .animations | .particles => text

def slots (kind : SlotKind) (g : ClientEntity) : Entries String :=
  match kind with
  | .animations => g.animations
  | .geometry => g.geometry
  | .textures => g.textures
  | .particles => g.particles

def writes (kind : SlotKind) (g : ClientEntity) : Bool :=
  match kind with
  | .geometry | .textures => !g.invisible
  | .animations | .particles => true

def shownSlots (kind : SlotKind) (document : Json) : Entries Json :=
  document.fieldsAt ["minecraft:client_entity", "description", kind.field]

/-- The slots behave as a map: names are distinct, and a slot that is filled is the one that is
written, while all others stay as they are. -/
structure MapsSlots (kind : SlotKind) (g : ClientEntity) : Prop where
  distinct : (Entries.keys (g.slots kind)).Nodup
  filled : g.writes kind = true → ∀ version name text other,
    Entries.get? other (shownSlots kind ((g.edit (kind.fill name text)).document version)) =
      if name = other then some (.str (kind.target text))
      else Entries.get? other (shownSlots kind (g.document version))

variable {g : ClientEntity} {kind : SlotKind}

theorem shownSlots_document (version : String) (h : g.writes kind = true) :
    shownSlots kind (g.document version) =
      Entries.ofList ((g.slots kind).map fun slot => (slot.1, .str slot.2)) := by
  obtain ⟨id, material, renderController, eggBase, eggOverlay, invisible, scale, geometry, textures,
    animations, animate, particles, setupScript, frameScript⟩ := g
  cases kind with
  | animations =>
    cases animations <;> cases particles <;> cases invisible <;> rfl
  | geometry =>
    cases invisible with
    | true => cases h
    | false => rfl
  | textures =>
    cases invisible with
    | true => cases h
    | false => rfl
  | particles =>
    cases animations <;> cases particles <;> cases invisible <;> rfl

theorem get?_shownSlots (version : String) (h : g.writes kind = true) (name : String) :
    Entries.get? name (shownSlots kind (g.document version)) =
      (Entries.last? name (g.slots kind)).map .str := by
  rw [shownSlots_document version h, Entries.get?_ofList_map, Entries.last?, Entries.get?_eq_find?,
    Option.map_map]
  rfl

theorem slots_fill (name text : String) : (g.edit (kind.fill name text)).slots kind =
    Entries.insert name (kind.target text) (g.slots kind) := by
  cases kind <;> rfl

theorem writes_fill (name text : String) :
    (g.edit (kind.fill name text)).writes kind = g.writes kind := by
  cases kind <;> rfl

theorem document_fill (h : g.writes kind = false) (version name text : String) :
    (g.edit (kind.fill name text)).document version = g.document version := by
  cases kind with
  | animations => cases h
  | particles => cases h
  | geometry | textures =>
    have hinvisible : g.invisible = true := by simpa [writes] using h
    simp [document, description, look, edit, SlotKind.fill, addGeometry, addTexture, scripts,
      hinvisible]

/-- Only the first of two slots of one name can be filled, and only the last is written. -/
theorem mapsSlots_iff : g.MapsSlots kind ↔ (Entries.keys (g.slots kind)).Nodup := by
  refine ⟨MapsSlots.distinct, fun h => ⟨h, fun hw version name text other => ?_⟩⟩
  have hcount : (Entries.keys (g.slots kind)).count name ≤ 1 :=
    List.nodup_iff_count_le_one.mp h name
  have hw' : (g.edit (kind.fill name text)).writes kind = true := (writes_fill name text).trans hw
  rw [get?_shownSlots version hw', get?_shownSlots version hw, slots_fill, Entries.last?_insert]
  by_cases hname : name = other
  · rw [if_pos ⟨hname, hcount⟩, if_pos hname, Option.map_some]
  · rw [if_neg fun h => hname h.1, if_neg hname]

end ClientEntity

namespace Entity

section Turns

variable {old new : String} {ids names : List String}

/-- In its turn, no controller takes the name of another slot. -/
def TurnsApart (old new : String) : List String → List String → Prop
  | [], _ => True
  | id :: ids, names =>
    (id ∈ names → restemmed old new id ∈ names → restemmed old new id = id) ∧
      TurnsApart old new ids
        (names.map fun text => if text = id then restemmed old new id else text)

instance TurnsApart.decidable (old new : String) :
    (ids names : List String) → Decidable (TurnsApart old new ids names)
  | [], _ => inferInstanceAs (Decidable True)
  | _ :: ids, _ => @instDecidableAnd _ _ inferInstance (TurnsApart.decidable old new ids _)

theorem nodup_map_rename_iff (old new : String) (names : List String) :
    (names.map fun text => if text = old then new else text).Nodup ↔
      names.Nodup ∧ (old ∈ names → new ∈ names → new = old) := by
  constructor
  · intro h
    refine ⟨h.of_map, fun hold hnew => ?_⟩
    have hsame := List.inj_on_of_nodup_map h hold hnew
    rw [if_pos rfl, ite_eq_right_iff.mpr fun _ => rfl] at hsame
    exact (hsame rfl).symm
  · rintro ⟨h, hapart⟩
    refine h.map_on fun text htext other hother heq => ?_
    by_cases hold : text = old
    · by_cases hold' : other = old
      · rw [hold, hold']
      · rw [if_pos hold, if_neg hold'] at heq
        rw [hold, ← hapart (hold ▸ htext) (heq ▸ hother), heq]
    · by_cases hold' : other = old
      · rw [if_neg hold, if_pos hold'] at heq
        rw [hold', ← hapart (hold' ▸ hother) (heq ▸ htext), heq]
      · rwa [if_neg hold, if_neg hold'] at heq

theorem nodup_inTurn_iff : (names.map (inTurn old new ids)).Nodup ↔
    names.Nodup ∧ TurnsApart old new ids names := by
  induction ids generalizing names with
  | nil =>
    have hsame : names.map (inTurn old new []) = names := List.map_id names
    rw [hsame]
    exact (and_iff_left trivial).symm
  | cons id ids ih =>
    have hstep : names.map (inTurn old new (id :: ids)) =
        (names.map fun text => if text = id then restemmed old new id else text).map
          (inTurn old new ids) := by
      rw [List.map_map]
      rfl
    rw [hstep, ih, nodup_map_rename_iff, and_assoc]
    rfl

theorem atOnce_cases (old new : String) (ids : List String) (text : String) :
    atOnce old new ids text = text ∨
      ∃ suffix, text = old ++ suffix ∧ atOnce old new ids text = new ++ suffix := by
  by_cases hm : text ∈ ids
  · rw [atOnce, if_pos hm]
    cases hmoved : restem? old new text with
    | none => exact Or.inl (restemmed_eq_self hmoved)
    | some text' =>
      obtain ⟨suffix, htext, htext'⟩ := restem?_eq_some.mp hmoved
      exact Or.inr ⟨suffix, htext, (restemmed_eq_of_some hmoved).trans htext'⟩
  · exact Or.inl (if_neg hm)

/-- A stem that nothing has yet makes new names only. -/
theorem turnsApart_of_unused (h : names.Nodup)
    (hunused : ∀ text ∈ names ++ ids, ¬ new.toList <+: text.toList) :
    TurnsApart old new ids names := by
  have hfresh : ∀ suffix, new ++ suffix ∉ names ++ ids := by
    intro suffix hm
    refine hunused _ hm ?_
    rw [String.toList_append]
    exact List.prefix_append _ _
  have honce : ids.Pairwise fun earlier later =>
      restem? old new earlier = some later → restem? old new later = none := by
    refine List.pairwise_iff_forall_sublist.mpr fun {earlier later} hsub hmoved => ?_
    obtain ⟨suffix, -, rfl⟩ := restem?_eq_some.mp hmoved
    exact (hfresh suffix (List.mem_append_right _ (hsub.subset (by simp)))).elim
  refine (nodup_inTurn_iff.mp ?_).2
  rw [inTurn_eq_atOnce honce]
  refine h.map_on fun text htext other hother heq => ?_
  rcases atOnce_cases old new ids text with hstays | ⟨suffix, rfl, hmoves⟩
  · rcases atOnce_cases old new ids other with hstays' | ⟨suffix', rfl, hmoves'⟩
    · rwa [hstays, hstays'] at heq
    · rw [hstays, hmoves'] at heq
      exact (hfresh suffix' (List.mem_append_left _ (heq ▸ htext))).elim
  · rcases atOnce_cases old new ids other with hstays' | ⟨suffix', rfl, hmoves'⟩
    · rw [hmoves, hstays'] at heq
      exact (hfresh suffix (List.mem_append_left _ (heq ▸ hother))).elim
    · rw [hmoves, hmoves', String.append_right_inj] at heq
      rw [heq]

end Turns

variable {e e' : Entity} {op : Operation} {g : ClientEntity} {kind : ClientEntity.SlotKind}

def slotNames (e : Entity) : List String :=
  (e.client.map fun g => Entries.keys g.animations).getD []

def Apart (e : Entity) : Operation → Prop
  | .setId id =>
    TurnsApart (controllerStem e.id) (controllerStem id) (e.controllerIds .render) e.slotNames
  | _ => True

theorem slotNames_setId (id : String) (e : Entity) : (setId id e).slotNames = e.slotNames.map
    (inTurn (controllerStem e.id) (controllerStem id) (e.controllerIds .render)) := by
  unfold slotNames
  rw [client_setId]
  cases e.client with
  | none => rfl
  | some g => simp [renamedClient, ClientEntity.mapSlots, Entries.keys, Function.comp_def]

/-- Nothing but a new id renames slots, and what is filled has one slot. -/
theorem nodup_animations_redrawn (hop : ∀ id, op ≠ .setId id) :
    (Entries.keys (e.redrawn op g).animations).Nodup ↔ (Entries.keys g.animations).Nodup := by
  cases op with
  | setId id => exact (hop id rfl).elim
  | createController kind suffix initial =>
    cases kind with
    | behavior => exact Iff.rfl
    | render => exact Entries.nodup_keys_insert_iff ..
  | addController kind c =>
    cases kind with
    | behavior => exact Iff.rfl
    | render => exact Entries.nodup_keys_insert_iff ..
  | editClient edit =>
    cases edit with
    | addAnimation name target => exact Entries.nodup_keys_insert_iff ..
    | addController id => exact Entries.nodup_keys_insert_iff ..
    | _ => exact Iff.rfl
  | _ => exact Iff.rfl

theorem nodup_slots_edit (hkind : kind ≠ .animations) (h : (Entries.keys (g.slots kind)).Nodup)
    (edit : ClientEntity.Edit) : (Entries.keys ((g.edit edit).slots kind)).Nodup := by
  cases kind with
  | animations => exact (hkind rfl).elim
  | geometry =>
    cases edit with
    | setGeometry name => exact List.nodup_singleton _
    | addGeometry key name => exact Entries.nodup_keys_insert h ..
    | _ => exact h
  | textures =>
    cases edit with
    | setTexture path => exact List.nodup_singleton _
    | addTexture key path => exact Entries.nodup_keys_insert h ..
    | _ => exact h
  | particles =>
    cases edit with
    | addParticle name effect => exact Entries.nodup_keys_insert h ..
    | _ => exact h

theorem nodup_slots_redrawn (hkind : kind ≠ .animations) (h : (Entries.keys (g.slots kind)).Nodup)
    (e : Entity) (op : Operation) : (Entries.keys ((e.redrawn op g).slots kind)).Nodup := by
  have hsame : ∀ {g' : ClientEntity}, g'.slots kind = g.slots kind →
      (Entries.keys (g'.slots kind)).Nodup := fun heq => heq ▸ h
  cases op with
  | setId id => exact hsame (by cases kind <;> first | rfl | exact (hkind rfl).elim)
  | createController kind' suffix initial =>
    cases kind' with
    | behavior => exact h
    | render => exact nodup_slots_edit hkind h (.addController _)
  | addController kind' c =>
    cases kind' with
    | behavior => exact h
    | render => exact nodup_slots_edit hkind h (.addController c.id)
  | editClient edit => exact nodup_slots_edit hkind h edit
  | _ => exact h

theorem nodup_slotNames_after (hop : ∀ client, op ≠ .setClient client) :
    (after e op).slotNames.Nodup ↔ e.slotNames.Nodup ∧ e.Apart op := by
  by_cases hid : ∃ id, op = .setId id
  · obtain ⟨id, rfl⟩ := hid
    have hnames : (after e (.setId id)).slotNames = _ := slotNames_setId id e
    rw [hnames, nodup_inTurn_iff]
    rfl
  · have hapart : e.Apart op := by
      cases op with
      | setId id => exact (hid ⟨id, rfl⟩).elim
      | _ => trivial
    rw [and_iff_left hapart, slotNames, slotNames, client_after e hop]
    cases e.client with
    | none => exact Iff.rfl
    | some g => exact nodup_animations_redrawn fun id heq => hid ⟨id, heq⟩

def KeepsApart (e : Entity) : List Operation → Prop
  | [] => True
  | op :: ops => e.Apart op ∧ (after e op).KeepsApart ops

theorem nodup_slotNames_run {ops : List Operation}
    (hops : ∀ op ∈ ops, ∀ client, op ≠ .setClient client) :
    (run e ops).slotNames.Nodup ↔ e.slotNames.Nodup ∧ e.KeepsApart ops := by
  induction ops generalizing e with
  | nil => exact (and_iff_left trivial).symm
  | cons op ops ih =>
    obtain ⟨hop, hrest⟩ := List.forall_mem_cons.mp hops
    have hlater : (run (after e op) ops).slotNames.Nodup ↔ _ := ih hrest
    exact hlater.trans ((and_congr_left' (nodup_slotNames_after hop)).trans and_assoc)

theorem keepsApart_snoc {ops : List Operation} :
    e.KeepsApart (ops ++ [op]) ↔ e.KeepsApart ops ∧ (run e ops).Apart op := by
  induction ops generalizing e with
  | nil => exact and_comm
  | cons first ops ih => exact (and_congr_right' ih).trans and_assoc.symm

theorem nodup_slotNames_iff (scope name : String) (o : Options) {ops : List Operation}
    (hops : ∀ op ∈ ops, ∀ client, op ≠ .setClient client) :
    (run (new scope name o) ops).slotNames.Nodup ↔ (new scope name o).KeepsApart ops := by
  have hfirst : (new scope name o).slotNames = [] := by
    unfold slotNames new
    cases o.graphics <;> rfl
  rw [nodup_slotNames_run hops, hfirst]
  exact and_iff_right List.nodup_nil

def OthersDistinct (e : Entity) : Prop :=
  ∃ g, e.client = some g ∧ ∀ kind, kind ≠ .animations → (Entries.keys (g.slots kind)).Nodup

theorem OthersDistinct.after (h : e.OthersDistinct) (hop : ∀ client, op ≠ .setClient client) :
    (after e op).OthersDistinct := by
  obtain ⟨g, hg, hnames⟩ := h
  refine ⟨e.redrawn op g, ?_, fun kind hkind => nodup_slots_redrawn hkind (hnames kind hkind) e op⟩
  rw [client_after e hop, hg, Option.map_some]

theorem othersDistinct_new (scope name : String) {o : Options} (ho : o.graphics = true) :
    (new scope name o).OthersDistinct := by
  refine ⟨_, if_pos ho, fun kind hkind => ?_⟩
  cases kind with
  | animations => exact (hkind rfl).elim
  | geometry => exact List.nodup_singleton _
  | textures => exact List.nodup_singleton _
  | particles => exact List.nodup_nil

theorem othersDistinct_run (scope name : String) {o : Options} (ho : o.graphics = true)
    {ops : List Operation} (hops : ∀ op ∈ ops, ∀ client, op ≠ .setClient client) :
    (run (new scope name o) ops).OthersDistinct :=
  history_induction (P := fun _ e => e.OthersDistinct) (h := []) (fun hop h => h.after hop)
    (othersDistinct_new scope name ho) hops

/-- After every run, filling a slot shows in the document as an update of a map, unless it is a
slot of an animation and a new id has given one the name of another. No id does so whose stem
begins neither a slot's name nor the id of a render controller. An invisible entity shows
neither model nor textures, and filling those leaves its document as it is. -/
theorem slots_act_as_maps (scope name : String) {o : Options} (ho : o.graphics = true)
    {ops : List Operation} (hops : ∀ op ∈ ops, ∀ client, op ≠ .setClient client) :
    ∃ g, (run (new scope name o) ops).client = some g ∧
      (∀ kind, g.MapsSlots kind ↔ (kind = .animations → (new scope name o).KeepsApart ops)) ∧
      (∀ kind, g.writes kind = false → ∀ version name text,
        (g.edit (kind.fill name text)).document version = g.document version) ∧
      ((new scope name o).KeepsApart ops → ∀ id,
        (∀ text ∈ Entries.keys g.animations ++ (run (new scope name o) ops).controllerIds .render,
          ¬ (controllerStem id).toList <+: text.toList) →
        (new scope name o).KeepsApart (ops ++ [.setId id])) := by
  obtain ⟨g, hg, hothers⟩ := othersDistinct_run scope name ho hops
  have hnames : (run (new scope name o) ops).slotNames = Entries.keys (g.slots .animations) := by
    rw [slotNames, hg]
    rfl
  have hdistinct := nodup_slotNames_iff scope name o hops
  refine ⟨g, hg, fun kind => ?_, fun kind => ClientEntity.document_fill,
    fun hapart id hunused => keepsApart_snoc.mpr ⟨hapart, ?_⟩⟩
  · rw [ClientEntity.mapsSlots_iff]
    by_cases hkind : kind = .animations
    · rw [hkind, ← hnames, hdistinct, forall_prop_of_true rfl]
    · exact iff_of_true (hothers kind hkind) fun h => (hkind h).elim
  · exact turnsApart_of_unused (hdistinct.mpr hapart) (hnames ▸ hunused)

def freshNamesRun : List Operation := [
  .editClient (.addAnimation "walk" "animation.golem.walk"),
  .createController .render "x" none,
  .addController .render { id := "controller.animation.shared", initial := "idle" },
  .setId "ogre",
  .createController .render "b_x" none,
  .setId "troll"]

theorem fresh_names_run_shows_what_is_put_in : ∃ g,
    (run (new "dev" "Boss" { id := some "golem", graphics := true })
      freshNamesRun).client = some g ∧
    (∀ kind, g.MapsSlots kind) ∧
    Entries.get? "walk" (ClientEntity.shownSlots .animations
      ((g.edit (.addAnimation "walk" "animation.troll.walk")).document "1.10.0")) =
        some (.str "animation.troll.walk") ∧
    (new "dev" "Boss" { id := some "golem", graphics := true }).KeepsApart
      (freshNamesRun ++ [.setId "giant"]) := by
  have hspares : ∀ op ∈ freshNamesRun, ∀ client, op ≠ .setClient client := by simp [freshNamesRun]
  have hapart : (new "dev" "Boss" { id := some "golem", graphics := true }).KeepsApart
      freshNamesRun := by
    refine ⟨trivial, trivial, trivial, ?_, trivial, ?_, trivial⟩
    · unfold Apart
      decide +kernel
    · unfold Apart
      decide +kernel
  have hgraphics : ({ id := some "golem", graphics := true } : Options).graphics = true := rfl
  obtain ⟨g, hg, hmaps, -, hnext⟩ := slots_act_as_maps "dev" "Boss" hgraphics hspares
  have hall : ∀ kind, g.MapsSlots kind := fun kind => (hmaps kind).mpr fun _ => hapart
  have hnames : (run (new "dev" "Boss" { id := some "golem", graphics := true })
      freshNamesRun).client.map (fun g => Entries.keys g.animations) = some ["walk",
        "controller.animation.troll_x", "controller.animation.shared",
        "controller.animation.troll_b_x"] := by decide +kernel
  rw [hg, Option.map_some] at hnames
  refine ⟨g, hg, hall, ?_, hnext hapart "giant" ?_⟩
  · exact ((hall .animations).filled rfl "1.10.0" "walk" _ "walk").trans (if_pos rfl)
  · rw [Option.some.inj hnames]
    decide +kernel

/-- The slot put in by hand has the name that the slot of the controller is given later. -/
def clashingSlotRun : List Operation := [
  .editClient (.addAnimation "controller.animation.ogre_x" "animation.walk"),
  .createController .render "x" none,
  .setId "ogre",
  .editClient (.addAnimation "controller.animation.ogre_x" "animation.run")]

/-- A new id can give two slots one name, and filling the first of them does not show. -/
theorem clashing_slot_is_hidden : ∃ g,
    (run (new "dev" "Boss" { id := some "golem", graphics := true })
      clashingSlotRun).client = some g ∧
    Entries.keys g.animations = ["controller.animation.ogre_x", "controller.animation.ogre_x"] ∧
    Entries.get? "controller.animation.ogre_x"
      (ClientEntity.shownSlots .animations (g.document "1.10.0")) =
        some (.str "controller.animation.ogre_x") := by
  have hclient : ∃ g, (run (new "dev" "Boss" { id := some "golem", graphics := true })
      clashingSlotRun).client = some g := Option.isSome_iff_exists.mp (by decide +kernel)
  obtain ⟨g, hg⟩ := hclient
  have hslots : (run (new "dev" "Boss" { id := some "golem", graphics := true })
      clashingSlotRun).client.map ClientEntity.animations = some
        [("controller.animation.ogre_x", "animation.run"),
          ("controller.animation.ogre_x", "controller.animation.ogre_x")] := by
    decide +kernel
  rw [hg, Option.map_some] at hslots
  have hanimations : g.slots .animations = _ := Option.some.inj hslots
  refine ⟨g, hg, congrArg Entries.keys hanimations, ?_⟩
  rw [ClientEntity.get?_shownSlots "1.10.0" rfl, hanimations]
  rfl

end Entity
end EntityPack
