import EntityPack.Proofs.Reference
import EntityPack.Proofs.Resolution
import EntityPack.Proofs.Settling

/-!
# Resolving twice

A second resolution finds every remove-list complete and no name at the position of an id.
Only conditions and commands are substituted once more. If all names are proper, no name is
left in them either, and the entity stays as it is.
-/
namespace EntityPack

variable {r : Registry} {branches : List ResolvedBranch}

namespace Branch

theorem substituteId_idem (hs : r.Sound) (h : r.resolved = .ok branches) (id : String) :
    substituteId branches (substituteId branches id) = substituteId branches id :=
  substituteId_other h ((substituteId_renames hs h id).no_name hs)

theorem sew_again (hs : r.Sound) (h : r.resolved = .ok branches) (events : List Event) :
    sew (seams branches)
        ((sew (seams branches) events).map (·.mapReferences (substituteId branches))) =
      (sew (seams branches) events).map (·.mapReferences (substituteId branches)) := by
  have hfirst := stitched_sew h events
  have hsecond := stitched_sew h
    ((sew (seams branches) events).map (·.mapReferences (substituteId branches)))
  have hids : ((sew (seams branches) events).map
      (·.mapReferences (substituteId branches))).map Event.fullId = events.map Event.fullId := by
    rw [← hfirst.ids, List.map_map]
    exact List.map_congr_left fun ev _ => Event.fullId_mapReferences _ ev
  refine List.ext_getElem? fun i => ?_
  cases hev : events[i]? with
  | none =>
    have hmapped : ((sew (seams branches) events).map
        (·.mapReferences (substituteId branches)))[i]? = none := by
      rw [List.getElem?_map, hfirst.event?_none hev, Option.map_none]
    rw [hsecond.event?_none hmapped, hmapped]
  | some ev =>
    obtain ⟨added, hget, -, hadded⟩ := hfirst.event i ev hev
    have hmapped : ((sew (seams branches) events).map
        (·.mapReferences (substituteId branches)))[i]? =
        some (Event.mapReferences (substituteId branches)
          { ev with remove := ev.remove ++ added }) := by
      rw [List.getElem?_map, hget, Option.map_some]
    obtain ⟨again, hget', -, hagain⟩ := hsecond.event i _ hmapped
    have hnothing : again = [] := by
      refine List.eq_nil_iff_forall_not_mem.mpr fun group hg => ?_
      obtain ⟨hnot, hpartner, hi⟩ := (hagain group).mp hg
      rw [hids, Event.fullId_mapReferences] at hi
      rw [Event.fullId_mapReferences] at hpartner
      -- The group is in the remove-list since the first time, and it is the id of a state.
      have hmem : group ∈ ev.remove ++ added := by
        by_cases hin : group ∈ ev.remove
        · exact List.mem_append_left _ hin
        · exact List.mem_append_right _ ((hadded group).mpr ⟨hin, hpartner, hi⟩)
      obtain ⟨k, rfl⟩ := hpartner.eq_label
      rw [Event.remove_mapReferences] at hnot
      exact hnot (List.mem_map.mpr ⟨k.label, hmem, substituteId_label hs h k⟩)
    rw [hget', hnothing, Event.append_nothing, hmapped]

end Branch

namespace Entity

variable {e e' : Entity}

theorem stitched_withResolved (hs : e.branches.Sound) (h : e.branches.resolved = .ok branches) :
    (e.withResolved branches).stitched branches = e.withResolved branches := by
  have hsew := Branch.sew_again hs h e.behavior.events
  simp only [stitched, withResolved, Branch.stitchAll_eq, Branch.sewn, Branch.resolveBehavior,
    hsew]

/-- The second resolution substitutes in conditions and commands and does nothing else. -/
theorem withResolved_withResolved (hs : e.branches.Sound)
    (h : e.branches.resolved = .ok branches) :
    (e.withResolved branches).withResolved branches =
      (e.withResolved branches).rewrite (fun id => id) (Branch.substituteText branches) := by
  rw [withResolved_eq branches (e.withResolved branches), stitched_withResolved hs h,
    withResolved_eq, rewrite_rewrite, rewrite_rewrite]
  congr 1
  funext x
  exact Branch.substituteId_idem hs h x

theorem withResolved_idem (hs : e.branches.Sound) (h : e.branches.resolved = .ok branches)
    (hp : ∀ b ∈ branches, Branch.ProperName b.name) :
    (e.withResolved branches).withResolved branches = e.withResolved branches := by
  rw [withResolved_withResolved hs h, withResolved_eq, rewrite_rewrite]
  congr 1
  funext text
  exact Branch.substituteText_idem hp text

/-- A second resolution succeeds and changes at most the wording of conditions and commands.
If all names are proper it changes nothing, so that a second build gives what the first gave. -/
theorem second_resolution_only_rewords (hr : Reachable e)
    (h : resolveBranches.apply e = (e', .ok ())) :
    ∃ e'', resolveBranches.apply e' = (e'', .ok ()) ∧ Rewritten Eq e' e'' ∧
      ((∀ b ∈ e.branches, Branch.ProperName b.name) →
        e'' = e' ∧ (build.apply e).1 = e' ∧ build.apply e' = build.apply e) := by
  have hsound := sound_reachable hr
  obtain ⟨branches, hres, rfl⟩ := resolve_ok h
  have hagain : resolveBranches.apply (e.withResolved branches) =
      ((e.withResolved branches).withResolved branches, .ok ()) := resolve_eq hres
  refine ⟨_, hagain, ?_, fun hp => ?_⟩
  · rw [withResolved_withResolved hsound hres]
    exact rewritten_rewrite (fun id => rfl) _
  · have hnames : ∀ b ∈ branches, Branch.ProperName b.name := by
      intro b hb
      exact hp b.toBranch (Registry.resolved_ok.mp hres ▸ List.mem_map_of_mem hb)
    have hsame := withResolved_idem hsound hres hnames
    rw [hsame] at hagain
    exact ⟨hsame, by rw [build_resolved h], by rw [build_resolved h, build_resolved hagain]⟩

def entryCommands (e : Entity) : List String :=
  e.behaviorControllers.flatMap fun c => c.states.flatMap (·.onEntry)

def properlyNamed : Entity :=
  run (new "dev" "Boss" {}) [
    .createController .behavior "timing" none,
    .addLoopState {
      entryCommands := some ["/event entity @s very-angry", "/say hurt, not hurt_1"]
      connections := ["very-angry", "hurt"] },
    .addLoopState { name := some "hurt" },
    .addLoopState { name := some "very-angry" }]

theorem properly_named_stays_resolved : Reachable properlyNamed ∧
    (∀ b ∈ properlyNamed.branches, Branch.ProperName b.name) ∧ ∃ e',
      resolveBranches.apply properlyNamed = (e', .ok ()) ∧
      resolveBranches.apply e' = (e', .ok ()) ∧ build.apply e' = build.apply properlyNamed ∧
      entryCommands e' = ["/event entity @s state_2", "/say state_1, not hurt_1"] := by
  have hr : Reachable properlyNamed := reachable_run (.new _ _ _) _
  have hb : properlyNamed.branches.resolved =
      .ok [⟨"very-angry", ⟨2⟩, [⟨0⟩]⟩, ⟨"hurt", ⟨1⟩, [⟨0⟩]⟩] := by decide +kernel
  have hproper : ∀ b ∈ properlyNamed.branches, Branch.ProperName b.name := by
    rw [Registry.resolved_ok.mp hb]
    have hfirst : Branch.ProperName "very-angry" :=
      Branch.properName_of_edged (by constructor <;> decide +kernel) (by decide +kernel)
    have hsecond : Branch.ProperName "hurt" :=
      Branch.properName_of_word (Text.tokenWord_of_ascii (by decide) (by simp)) (by decide)
    simp [ResolvedBranch.toBranch, hfirst, hsecond]
  obtain ⟨e'', hagain, -, hsame⟩ := second_resolution_only_rewords hr (resolve_eq hb)
  obtain ⟨rfl, -, hbuild⟩ := hsame hproper
  exact ⟨hr, hproper, _, resolve_eq hb, hagain, hbuild, by decide +kernel⟩

/-- The first name contains the id that the second name is replaced by. -/
def idBearingName : Entity :=
  run (new "dev" "Boss" {}) [
    .createController .behavior "timing" none,
    .addLoopState {
      entryCommands := some ["/tag @s add hurt-enraged"]
      connections := ["state_1-enraged", "hurt"] },
    .addLoopState { name := some "hurt" },
    .addLoopState { name := some "state_1-enraged" }]

/-- Without the condition on names a second resolution can change a command again. -/
theorem id_bearing_name_is_reworded_twice : Reachable idBearingName ∧ ∃ e' e'',
    resolveBranches.apply idBearingName = (e', .ok ()) ∧
    resolveBranches.apply e' = (e'', .ok ()) ∧
    entryCommands e' = ["/tag @s add state_1-enraged"] ∧
    entryCommands e'' = ["/tag @s add state_2"] ∧ e'' ≠ e' := by
  have hb : idBearingName.branches.resolved =
      .ok [⟨"state_1-enraged", ⟨2⟩, [⟨0⟩]⟩, ⟨"hurt", ⟨1⟩, [⟨0⟩]⟩] := by decide +kernel
  refine ⟨reachable_run (.new _ _ _) _, _, _, resolve_eq hb, resolve_eq hb,
    by decide +kernel, by decide +kernel, fun hsame => ?_⟩
  have hcommands := congrArg entryCommands hsame
  revert hcommands
  decide +kernel

end Entity
end EntityPack
