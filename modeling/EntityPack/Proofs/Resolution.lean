import EntityPack.Entity.Assembly
import EntityPack.Proofs.Registry
import EntityPack.Proofs.Run

/-!
# What resolution changes

Stitching appends to the remove-list of an event the groups of the states its own state is connected
with, in either direction. Each group is appended once, only if it is missing, and only to the first
event of its id. Then every branch name at the position of an id is replaced by the id of its
target. All other ids stay, and the ids of states are no names, so no name is left. Outside these
positions only the wording of conditions and commands can change.
-/
namespace EntityPack

/-- The event `id` has to remove `group`, for the sake of some connection. -/
def Registry.Partner (r : Registry) (id group : String) : Prop :=
  ∃ s t : StateId, r.Connects s t ∧ s ≠ t ∧
    ((id = t.label ∧ group = s.label) ∨ (id = s.label ∧ group = t.label))

theorem Registry.Partner.eq_label {r : Registry} {id group : String} (h : r.Partner id group) :
    ∃ k : StateId, group = k.label := by
  obtain ⟨s, t, -, -, ⟨-, rfl⟩ | ⟨-, rfl⟩⟩ := h
  · exact ⟨s, rfl⟩
  · exact ⟨t, rfl⟩

structure Stitched (r : Registry) (events events' : List Event) : Prop where
  length : events'.length = events.length
  event : ∀ i ev, events[i]? = some ev → ∃ added,
    events'[i]? = some { ev with remove := ev.remove ++ added } ∧ added.Nodup ∧
    ∀ group, group ∈ added ↔ group ∉ ev.remove ∧ r.Partner ev.fullId group ∧
      (events.map Event.fullId).idxOf ev.fullId = i

namespace Event

def ensureAll (groups : List String) (ev : Event) : Event :=
  groups.foldl (fun ev group => ev.ensureRemoves group) ev

theorem append_nothing (ev : Event) : { ev with remove := ev.remove ++ [] } = ev := by
  cases ev
  simp

theorem ensureRemoves_eq (group : String) (ev : Event) :
    ev.ensureRemoves group =
      { ev with remove := ev.remove ++ if group ∈ ev.remove then [] else [group] } := by
  unfold ensureRemoves removes removeGroups
  by_cases h : group ∈ ev.remove
  · rw [if_pos h, append_nothing]
    simp [h]
  · simp [h]

theorem fullId_ensureRemoves (group : String) (ev : Event) :
    (ev.ensureRemoves group).fullId = ev.fullId := by
  rw [ensureRemoves_eq]
  rfl

/-- Only missing groups are appended, each once. -/
theorem ensureAll_added (groups : List String) (ev : Event) :
    ∃ added, ev.ensureAll groups = { ev with remove := ev.remove ++ added } ∧ added.Nodup ∧
      ∀ group, group ∈ added ↔ group ∉ ev.remove ∧ group ∈ groups := by
  induction groups generalizing ev with
  | nil => exact ⟨[], (append_nothing ev).symm, List.nodup_nil, by simp⟩
  | cons g groups ih =>
    obtain ⟨added, heq, hd, hm⟩ := ih (ev.ensureRemoves g)
    have hstep : ev.ensureAll (g :: groups) = (ev.ensureRemoves g).ensureAll groups := rfl
    rw [hstep, heq, ensureRemoves_eq]
    rw [ensureRemoves_eq] at hm
    by_cases hg : g ∈ ev.remove
    · refine ⟨added, by simp [hg], hd, ?_⟩
      intro x
      rw [hm x]
      simp only [hg, if_true, List.append_nil, List.mem_cons]
      constructor
      · rintro ⟨hx, hxg⟩
        exact ⟨hx, Or.inr hxg⟩
      · rintro ⟨hx, rfl | hxg⟩
        · exact (hx hg).elim
        · exact ⟨hx, hxg⟩
    · refine ⟨g :: added, by simp [hg], ?_, ?_⟩
      · refine List.nodup_cons.mpr ⟨?_, hd⟩
        rw [hm g]
        simp [hg]
      · intro x
        rw [List.mem_cons, List.mem_cons, hm x, if_neg hg, List.mem_append, List.mem_singleton]
        constructor
        · rintro (rfl | ⟨hx, hxg⟩)
          · exact ⟨hg, Or.inl rfl⟩
          · exact ⟨fun h => hx (Or.inl h), Or.inr hxg⟩
        · rintro ⟨hx, rfl | hxg⟩
          · exact Or.inl rfl
          · by_cases h : x = g
            · exact Or.inl h
            · exact Or.inr ⟨fun hor => hor.elim hx h, hxg⟩

end Event

namespace Branch

def seam (target source : StateId) : List (String × String) :=
  if source = target then []
  else [(target.label, source.label), (source.label, target.label)]

def seams (branches : List ResolvedBranch) : List (String × String) :=
  branches.flatMap fun branch => branch.sources.flatMap (seam branch.target)

def sew (seams : List (String × String)) (events : List Event) : List Event :=
  seams.foldl (fun events seam =>
    modifyFirst (·.fullId == seam.1) (·.ensureRemoves seam.2) events) events

def sewn (seams : List (String × String)) (b : Behavior) : Behavior :=
  { b with events := sew seams b.events }

def groupsFor (id : String) (seams : List (String × String)) : List String :=
  (seams.filter (·.1 = id)).map (·.2)

theorem sewn_append (seams rest : List (String × String)) (b : Behavior) :
    sewn (seams ++ rest) b = sewn rest (sewn seams b) := by
  unfold sewn sew
  rw [List.foldl_append]

theorem stitch_eq (target source : StateId) (b : Behavior) :
    stitch target source b = sewn (seam target source) b := by
  unfold stitch seam
  split <;> rfl

theorem stitchAll_eq (branches : List ResolvedBranch) (b : Behavior) :
    stitchAll branches b = sewn (seams branches) b := by
  have hsources : ∀ (t : StateId) (sources : List StateId) (b : Behavior),
      sources.foldl (fun b source => stitch t source b) b =
        sewn (sources.flatMap (seam t)) b := by
    intro t sources
    induction sources with
    | nil => exact fun _ => rfl
    | cons source sources ih =>
      intro b
      rw [List.foldl_cons, ih, stitch_eq, List.flatMap_cons, sewn_append]
  unfold stitchAll
  induction branches generalizing b with
  | nil => rfl
  | cons branch branches ih =>
    rw [List.foldl_cons, ih, hsources, ← sewn_append]
    rfl

theorem sew_cons (seam : String × String) (seams : List (String × String))
    (events : List Event) : sew (seam :: seams) events = sew seams
      (modifyFirst (·.fullId == seam.1) (·.ensureRemoves seam.2) events) := rfl

theorem ids_sew (seams : List (String × String)) (events : List Event) :
    (sew seams events).map Event.fullId = events.map Event.fullId := by
  induction seams generalizing events with
  | nil => rfl
  | cons seam seams ih =>
    rw [sew_cons, ih, map_modifyFirst _ (Event.fullId_ensureRemoves seam.2)]

/-- The first event of an id takes all groups of that id. -/
theorem getElem?_sew (seams : List (String × String)) (events : List Event) (i : Nat) :
    (sew seams events)[i]? = events[i]?.map fun ev =>
      if (events.map Event.fullId).idxOf ev.fullId = i then
        ev.ensureAll (groupsFor ev.fullId seams)
      else ev := by
  induction seams generalizing events with
  | nil => simp [sew, groupsFor, Event.ensureAll]
  | cons seam seams ih =>
    rw [sew_cons, ih, map_modifyFirst _ (Event.fullId_ensureRemoves seam.2),
      modifyFirst_eq_modify, List.getElem?_modify]
    cases hev : events[i]? with
    | none => rfl
    | some ev =>
      have hid : (events.map Event.fullId)[i]? = some ev.fullId := by simp [hev]
      simp only [Option.map_eq_map, Option.map_some]
      congr 1
      -- A seam reaches position `i` only if `i` is the first position of the id it names.
      by_cases hseam : seam.1 = ev.fullId
      · by_cases hi : (events.map Event.fullId).idxOf ev.fullId = i
        · simp [hseam, hi, Event.fullId_ensureRemoves, groupsFor, Event.ensureAll]
        · simp [hseam, hi]
      · have hi : (events.map Event.fullId).idxOf seam.1 ≠ i := by
          rintro rfl
          obtain ⟨hlt, hget⟩ := List.getElem?_eq_some_iff.mp hid
          rw [List.getElem_idxOf] at hget
          exact hseam hget
        simp [hi, hseam, groupsFor]

theorem mem_seam {target source : StateId} {id group : String} :
    (id, group) ∈ seam target source ↔ source ≠ target ∧
      ((id = target.label ∧ group = source.label) ∨
        (id = source.label ∧ group = target.label)) := by
  unfold seam
  split <;> simp_all

theorem mem_groupsFor {r : Registry} {branches : List ResolvedBranch}
    (h : r.resolved = .ok branches) {id group : String} :
    group ∈ groupsFor id (seams branches) ↔ r.Partner id group := by
  have hmem : group ∈ groupsFor id (seams branches) ↔ (id, group) ∈ seams branches := by
    simp [groupsFor]
  rw [hmem, seams, List.mem_flatMap]
  constructor
  · rintro ⟨b, hb, hm⟩
    obtain ⟨s, hs, hm⟩ := List.mem_flatMap.mp hm
    obtain ⟨hne, hends⟩ := mem_seam.mp hm
    exact ⟨s, b.target, (Registry.resolved_connects h).mpr ⟨b, hb, rfl, hs⟩, hne, hends⟩
  · rintro ⟨s, t, hc, hne, hends⟩
    obtain ⟨b, hb, rfl, hs⟩ := (Registry.resolved_connects h).mp hc
    exact ⟨b, hb, List.mem_flatMap.mpr ⟨s, hs, mem_seam.mpr ⟨hne, hends⟩⟩⟩

theorem stitched_sew {r : Registry} {branches : List ResolvedBranch}
    (h : r.resolved = .ok branches) (events : List Event) :
    Stitched r events (sew (seams branches) events) where
  length := by
    have hl := congrArg List.length (ids_sew (seams branches) events)
    simpa using hl
  event i ev hev := by
    rw [getElem?_sew, hev, Option.map_some]
    by_cases hi : (events.map Event.fullId).idxOf ev.fullId = i
    · obtain ⟨added, heq, hd, hm⟩ := ev.ensureAll_added (groupsFor ev.fullId (seams branches))
      refine ⟨added, by rw [if_pos hi, heq], hd, ?_⟩
      intro group
      rw [hm, mem_groupsFor h]
      simp [hi]
    · refine ⟨[], by rw [if_neg hi, Event.append_nothing], List.nodup_nil, ?_⟩
      simp [hi]

end Branch

namespace Stitched

variable {r : Registry} {events events' : List Event}

theorem event?_none (h : Stitched r events events') {i : Nat} (hev : events[i]? = none) :
    events'[i]? = none := by
  rw [List.getElem?_eq_none_iff] at hev ⊢
  exact h.length ▸ hev

theorem ids (h : Stitched r events events') :
    events'.map Event.fullId = events.map Event.fullId := by
  refine List.ext_getElem? fun i => ?_
  rw [List.getElem?_map, List.getElem?_map]
  cases hev : events[i]? with
  | none => rw [h.event?_none hev]
  | some ev =>
    obtain ⟨added, heq, -, -⟩ := h.event i ev hev
    rw [heq]
    rfl

/-- Seen from a full id, stitching appends missing groups to the one event that bears it. -/
theorem find (h : Stitched r events events') {id : String} {ev : Event}
    (hev : events.find? (·.fullId == id) = some ev) : ∃ added,
      events'.find? (·.fullId == id) = some { ev with remove := ev.remove ++ added } ∧
      added.Nodup ∧ ∀ group, group ∈ added ↔ group ∉ ev.remove ∧ r.Partner id group := by
  have hid : ev.fullId = id := by simpa using List.find?_some hev
  rw [find?_key_eq_getElem?] at hev
  obtain ⟨added, heq, hd, hm⟩ := h.event _ ev hev
  refine ⟨added, ?_, hd, ?_⟩
  · rw [find?_key_eq_getElem?, h.ids]
    exact heq
  · intro group
    rw [hm, hid]
    simp

end Stitched

structure Registry.Renames (r : Registry) (id id' : String) : Prop where
  name : ∀ b ∈ r, b.name = id → ∃ t, b.target = some t ∧ id' = t.label
  other : (∀ b ∈ r, b.name ≠ id) → id' = id

variable {r : Registry} {branches : List ResolvedBranch}

theorem Branch.substituteId_renames (hs : r.Sound) (h : r.resolved = .ok branches)
    (id : String) : r.Renames id (substituteId branches id) where
  name := by
    rintro b hb rfl
    obtain ⟨t, ht, -⟩ := Registry.resolved_target h hb
    exact ⟨t, ht, substituteId_name hs h hb ht⟩
  other := substituteId_other h

/-- Names are gone after renaming: what they become is reserved. -/
theorem Registry.Renames.no_name (hs : r.Sound) {id id' : String} (h : r.Renames id id') :
    ∀ b ∈ r, b.name ≠ id' := by
  by_cases hid : ∃ b ∈ r, b.name = id
  · obtain ⟨b, hb, hn⟩ := hid
    obtain ⟨t, -, rfl⟩ := h.name b hb hn
    exact fun c hc => StateId.label_ne_of_unreserved (hs.unreserved c hc) t
  · have hne : ∀ b ∈ r, b.name ≠ id := fun b hb hn => hid ⟨b, hb, hn⟩
    rw [h.other hne]
    exact hne

namespace Entity

variable {e e' : Entity}

theorem stitched_behavior (h : e.branches.resolved = .ok branches) :
    ∃ events, Stitched e.branches e.behavior.events events ∧
      Branch.stitchAll branches e.behavior = { e.behavior with events } := by
  refine ⟨Branch.sew (Branch.seams branches) e.behavior.events, Branch.stitched_sew h _, ?_⟩
  rw [Branch.stitchAll_eq, Branch.sewn]

theorem rewritten_withResolved {R : String → String → Prop}
    (hR : ∀ id, R id (Branch.substituteId branches id)) {events : List Event}
    (hs : Branch.stitchAll branches e.behavior = { e.behavior with events }) :
    Rewritten R { e with behavior := { e.behavior with events } } (e.withResolved branches) := by
  rw [withResolved_eq, stitched, hs]
  exact rewritten_rewrite hR _

/-- Successful resolution first stitches the events, then rewrites the references of all
documents by the registry and nothing else. No branch name is left among them. -/
theorem resolution_rewrites_exactly_the_names (hr : Reachable e)
    (h : resolveBranches.apply e = (e', .ok ())) :
    ∃ events, Stitched e.branches e.behavior.events events ∧
      Rewritten e.branches.Renames { e with behavior := { e.behavior with events } } e' ∧
      ∀ id ∈ e'.references, ∀ b ∈ e.branches, b.name ≠ id := by
  have hsound := sound_reachable hr
  obtain ⟨branches, hres, rfl⟩ := resolve_ok h
  obtain ⟨events, hstitched, heq⟩ := stitched_behavior hres
  have hrewritten := rewritten_withResolved (Branch.substituteId_renames hsound hres) heq
  refine ⟨events, hstitched, hrewritten, ?_⟩
  -- Every reference after resolution is what some reference before it was renamed to.
  have hnames : List.Forall₂ (fun id' id => (∀ b ∈ e.branches, b.name ≠ id') ∧
      e.branches.Renames id id') (e.withResolved branches).references _ :=
    List.Forall₂.flip (hrewritten.references.imp fun _ _ hid => ⟨hid.no_name hsound, hid⟩)
  exact ((List.forall₂_and_left _ _).mp hnames).1

/-- The name of the last state stands at every kind of position, once as a field name. -/
def nameEverywhere : Entity :=
  run (new "dev" "Boss" { spawnGroups := ["hurt"] }) [
    .addComponents [⟨"sensor", [("hurt", .arr [.str "hurt", .obj [("to", .str "calm")]])]⟩],
    .addGroup { id := "armed", components := [⟨"shooter", [("event", .str "hurt")]⟩] },
    .addEvent {
      id := "alarm", add := ["hurt"], remove := ["state_0"]
      randomizers := [{ remove := some ["hurt"] }]
      sequential := [{ id := "echo", next := some "hurt" }] },
    .createController .behavior "timing" none,
    .addControllerState .behavior 0 { id := "idle", transitions := [("hurt", "query.hurt")] },
    .addLoopState { connections := ["hurt"] },
    .addLoopState { name := some "hurt" }]

theorem name_everywhere_resolution : Reachable nameEverywhere ∧ ∃ e' events,
    resolveBranches.apply nameEverywhere = (e', .ok ()) ∧
    Stitched nameEverywhere.branches nameEverywhere.behavior.events events ∧
    Rewritten nameEverywhere.branches.Renames
      { nameEverywhere with behavior := { nameEverywhere.behavior with events } } e' ∧
    (∀ id ∈ e'.references, ∀ b ∈ nameEverywhere.branches, b.name ≠ id) ∧
    "hurt" ∈ nameEverywhere.references ∧ "state_1" ∈ e'.references := by
  have hr : Reachable nameEverywhere := reachable_run (.new _ _ _) _
  have hb : nameEverywhere.branches.resolved = .ok [⟨"hurt", ⟨1⟩, [⟨0⟩]⟩] := by decide +kernel
  obtain ⟨events, hs, hw, hn⟩ := resolution_rewrites_exactly_the_names hr (resolve_eq hb)
  exact ⟨hr, _, events, resolve_eq hb, hs, hw, hn, by decide +kernel, by decide +kernel⟩

end Entity
end EntityPack
