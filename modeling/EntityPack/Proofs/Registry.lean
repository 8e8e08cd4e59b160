import EntityPack.Branch
import EntityPack.Proofs.Entries
import Mathlib.Data.List.Nodup

/-!
# The branch registry as a map

An update changes the entry of one name and no other. A registry is sound if its names are distinct
and unreserved. Sound registries give every name one meaning, and substitution leaves the ids of
states alone: every such id is reserved, so that it is never the name of a branch.
-/
namespace EntityPack

namespace StateId

theorem label_toList (a : StateId) :
    a.label.toList = ['s', 't', 'a', 't', 'e', '_'] ++ Nat.toDigits 10 a.index := by
  simp [label, Nat.repr]

theorem label_injective {a b : StateId} (h : a.label = b.label) : a = b := by
  have hd : Nat.toDigits 10 a.index = Nat.toDigits 10 b.index := by
    simpa [label_toList] using congrArg String.toList h
  have hi := congrArg (Nat.ofDigitChars 10 · 0) hd
  simp only [Nat.ofDigitChars_ten_toDigits] at hi
  exact congrArg mk hi

@[simp] theorem label_inj {a b : StateId} : a.label = b.label ↔ a = b :=
  ⟨label_injective, congrArg label⟩

theorem reserved_label (a : StateId) : Branch.isReserved a.label = true := by
  have hd : (Nat.toDigits 10 a.index).all Char.isDigit = true := by
    rw [List.all_eq_true]
    intro c hc
    exact Nat.isDigit_of_mem_toDigits (by decide) (by decide) hc
  simp [Branch.isReserved, label_toList, Nat.toDigits_ne_nil, hd]

theorem label_ne_of_unreserved {name : String} (h : Branch.isReserved name = false)
    (a : StateId) : name ≠ a.label := by
  rintro rfl
  rw [reserved_label] at h
  cases h

theorem label_ne_hub (a : StateId) : a.label ≠ hubState := by
  intro h
  have hl := congrArg String.toList h
  simp [label_toList, hubState] at hl

theorem isFirst_iff {a : StateId} : a.isFirst = true ↔ a = first := by
  cases a
  simp [isFirst, first]

theorem pos_of_ne_first {a : StateId} (h : a ≠ first) : 0 < a.index := by
  rw [Nat.pos_iff_ne_zero]
  exact fun hz => h (congrArg mk hz)

variable {α : Type} {p : α → Bool} {as : List α}

def positions (p : α → Bool) (as : List α) : List StateId :=
  as.zipIdx.filterMap fun a => if p a.1 then some ⟨a.2⟩ else none

theorem mem_positions {k : StateId} :
    k ∈ positions p as ↔ ∃ a, as[k.index]? = some a ∧ p a = true := by
  unfold positions
  rw [List.mem_filterMap]
  constructor
  · rintro ⟨⟨a, i⟩, hm, hk⟩
    by_cases ha : p a = true
    · rw [if_pos ha] at hk
      obtain rfl := Option.some.inj hk
      exact ⟨a, List.mem_zipIdx_iff_getElem?.mp hm, ha⟩
    · rw [if_neg ha] at hk
      cases hk
  · rintro ⟨a, hk, ha⟩
    exact ⟨(a, k.index), List.mem_zipIdx_iff_getElem?.mpr hk, if_pos ha⟩

theorem positions_increasing (p : α → Bool) (as : List α) :
    (positions p as).Pairwise fun a b => a.index < b.index := by
  have hindex : ∀ (a : α × Nat) (k : StateId),
      (if p a.1 then some (StateId.mk a.2) else none) = some k → k.index = a.2 := by
    intro a k hk
    split at hk
    · rw [← Option.some.inj hk]
    · cases hk
  unfold positions
  rw [List.pairwise_filterMap, List.pairwise_iff_getElem]
  intro i j hi hj hlt a ha b hb
  rw [hindex _ a ha, hindex _ b hb, List.getElem_zipIdx, List.getElem_zipIdx]
  simpa using hlt

theorem positions_snoc (p : α → Bool) (as : List α) (a : α) :
    positions p (as ++ [a]) = positions p as ++ if p a then [⟨as.length⟩] else [] := by
  unfold positions
  rw [List.zipIdx_append, List.filterMap_append]
  split <;> simp_all

theorem positions_append_of_none {bs : List α} (h : ∀ b ∈ bs, p b = false) :
    positions p (as ++ bs) = positions p as := by
  have hnone : (bs.zipIdx (0 + as.length)).filterMap
      (fun a => if p a.1 then some (StateId.mk a.2) else none) = [] := by
    rw [List.filterMap_eq_nil_iff]
    rintro ⟨b, i⟩ hm
    have hb := h b (List.fst_mem_of_mem_zipIdx hm)
    simp [hb]
  unfold positions
  rw [List.zipIdx_append, List.filterMap_append, hnone, List.append_nil]

end StateId

namespace Registry

/-- The branch of a name as it stands, which is blank for a new name. -/
def entry (name : String) (r : Registry) : Branch := (get? name r).getD { name }

/-- A state leads to another through some branch. -/
def Connects (r : Registry) (source target : StateId) : Prop :=
  ∃ b ∈ r, b.target = some target ∧ source ∈ b.sources

structure Sound (r : Registry) : Prop where
  distinct : (r.map Branch.name).Nodup
  unreserved : ∀ b ∈ r, Branch.isReserved b.name = false

variable {r : Registry} {name : String} {f : Branch → Branch}

theorem sound_nil : Sound [] := by
  constructor <;> simp

theorem name_entry (name : String) (r : Registry) : (entry name r).name = name := by
  unfold entry get?
  cases h : r.find? (·.name == name) with
  | none => rfl
  | some b => simpa using List.find?_some h

theorem entry_cons (name : String) (b : Branch) (r : Registry) :
    entry name (b :: r) = if b.name = name then b else entry name r := by
  unfold entry get?
  rw [find?_key_cons]
  split <;> rfl

theorem entry_mem_or_blank (name : String) (r : Registry) :
    entry name r ∈ r ∨ entry name r = { name } := by
  unfold entry get?
  cases h : r.find? (·.name == name) with
  | none => exact Or.inr rfl
  | some b => exact Or.inl (List.mem_of_find?_eq_some h)

theorem entry_of_mem (hd : (r.map Branch.name).Nodup) {b : Branch} (hb : b ∈ r) :
    entry b.name r = b := by
  induction r with
  | nil => cases hb
  | cons c r ih =>
    rw [List.map_cons, List.nodup_cons] at hd
    rw [entry_cons]
    rcases List.mem_cons.mp hb with rfl | hb
    · rw [if_pos rfl]
    · have hne : c.name ≠ b.name := fun h => hd.1 (h ▸ List.mem_map_of_mem hb)
      rw [if_neg hne]
      exact ih hd.2 hb

theorem connects_iff (h : Sound r) {s t : StateId} :
    Connects r s t ↔ ∃ name, (entry name r).target = some t ∧ s ∈ (entry name r).sources := by
  constructor
  · rintro ⟨b, hb, ht, hs⟩
    refine ⟨b.name, ?_⟩
    rw [entry_of_mem h.distinct hb]
    exact ⟨ht, hs⟩
  · rintro ⟨name, ht, hs⟩
    rcases entry_mem_or_blank name r with hb | hb
    · exact ⟨_, hb, ht, hs⟩
    · rw [hb] at hs
      cases hs

theorem entry_update (hf : ∀ b, (f b).name = b.name) (n : String) :
    entry n (update name f r) = if n = name then f (entry name r) else entry n r := by
  induction r with
  | nil =>
    rw [update, entry_cons, hf]
    by_cases hn : n = name
    · rw [if_pos hn, if_pos hn.symm]
      rfl
    · rw [if_neg hn, if_neg (Ne.symm hn)]
  | cons b r ih =>
    by_cases hb : b.name = name
    · rw [update, if_pos hb, entry_cons, hf, hb, entry_cons, if_pos hb, entry_cons, hb]
      by_cases hn : n = name
      · rw [if_pos hn, if_pos hn.symm]
      · rw [if_neg hn, if_neg (Ne.symm hn), if_neg (Ne.symm hn)]
    · rw [update, if_neg hb, entry_cons, ih, entry_cons, if_neg hb, entry_cons]
      by_cases hn : n = name
      · rw [if_pos hn, if_neg (hn ▸ hb), if_pos hn]
      · rw [if_neg hn, if_neg hn]

theorem names_update (hf : ∀ b, (f b).name = b.name) :
    (update name f r).map Branch.name =
      if name ∈ r.map Branch.name then r.map Branch.name else r.map Branch.name ++ [name] := by
  induction r with
  | nil => simp [update, hf]
  | cons b r ih =>
    by_cases hn : b.name = name
    · simp [update, hn, hf]
    · simp only [update, if_neg hn, List.map_cons, ih, List.mem_cons, Ne.symm hn, false_or]
      split <;> rfl

theorem names_update_all {P : String → Prop} (h : ∀ b ∈ r, P b.name) (hn : P name)
    (hf : ∀ b, (f b).name = b.name) : ∀ b ∈ update name f r, P b.name := by
  intro b hb
  have hm : b.name ∈ (update name f r).map Branch.name := List.mem_map_of_mem hb
  have hold : ∀ n ∈ r.map Branch.name, P n := by
    intro n hm
    obtain ⟨c, hc, rfl⟩ := List.mem_map.mp hm
    exact h c hc
  rw [names_update hf] at hm
  split at hm
  · exact hold _ hm
  · rcases List.mem_append.mp hm with hm | hm
    · exact hold _ hm
    · rw [List.mem_singleton.mp hm]
      exact hn

theorem sound_update (h : Sound r) (hn : Branch.isReserved name = false)
    (hf : ∀ b, (f b).name = b.name) : Sound (update name f r) where
  distinct := by
    rw [names_update hf]
    split
    · exact h.distinct
    · rename_i hm
      refine List.nodup_append.mpr ⟨h.distinct, List.nodup_singleton name, ?_⟩
      rintro a ha b hb rfl
      exact hm (List.mem_singleton.mp hb ▸ ha)
  unreserved := names_update_all (P := (Branch.isReserved · = false)) h.unreserved hn hf

def bind (name : Option String) (state : StateId) (r : Registry) : Registry :=
  match name with
  | some name => update name (fun b => { b with target := some state }) r
  | none => r

def addSources (names : List String) (state : StateId) (r : Registry) : Registry :=
  names.foldl (fun r name => r.addSource name state) r

/-- Only a name without target, or with this very target, can be bound. -/
theorem checkTarget_ok {state : StateId} :
    checkTarget name state r = .ok () ↔
      ∀ t, (entry name r).target = some t → t = state := by
  unfold checkTarget entry
  cases hg : get? name r with
  | none => simp
  | some b =>
    cases ht : b.target with
    | none => simp [ht]
    | some t =>
      by_cases hs : t = state
      · simp [ht, hs]
      · simp [ht, hs]

theorem setTarget_ok {state : StateId} (h : checkTarget name state r = .ok ()) :
    setTarget name state r = .ok (bind (some name) state r) := by
  rw [setTarget, h]
  rfl

theorem entry_bind (name : Option String) (state : StateId) (r : Registry) (n : String) :
    entry n (bind name state r) =
      if name = some n then { entry n r with target := some state } else entry n r := by
  cases name with
  | none => rfl
  | some name =>
    have hf : ∀ b : Branch, ({ b with target := some state } : Branch).name = b.name :=
      fun _ => rfl
    rw [bind, entry_update hf]
    by_cases hn : n = name
    · simp [hn]
    · simp [hn, Ne.symm hn]

theorem names_bind {P : String → Prop} (h : ∀ b ∈ r, P b.name) {state : StateId}
    {name : Option String} (hn : ∀ n, name = some n → P n) :
    ∀ b ∈ bind name state r, P b.name := by
  cases name with
  | none => exact h
  | some name => exact names_update_all h (hn name rfl) fun _ => rfl

theorem sound_bind (h : Sound r) {state : StateId} {name : Option String}
    (hn : ∀ n, name = some n → Branch.isReserved n = false) : Sound (bind name state r) := by
  cases name with
  | none => exact h
  | some name => exact sound_update h (hn name rfl) fun _ => rfl

def withSource (state : StateId) (b : Branch) : Branch :=
  if b.sources.contains state then b else { b with sources := b.sources ++ [state] }

theorem addSource_eq (name : String) (state : StateId) (r : Registry) :
    r.addSource name state = update name (withSource state) r := rfl

@[simp] theorem name_withSource (state : StateId) (b : Branch) :
    (withSource state b).name = b.name := by
  unfold withSource
  split <;> rfl

@[simp] theorem target_withSource (state : StateId) (b : Branch) :
    (withSource state b).target = b.target := by
  unfold withSource
  split <;> rfl

@[simp] theorem mem_sources_withSource {state s : StateId} {b : Branch} :
    s ∈ (withSource state b).sources ↔ s ∈ b.sources ∨ s = state := by
  unfold withSource
  split
  · rename_i hc
    have hm : state ∈ b.sources := by simpa using hc
    constructor
    · exact Or.inl
    · rintro (h | rfl)
      · exact h
      · exact hm
  · simp

theorem target_addSources (names : List String) (state : StateId) (r : Registry) (n : String) :
    (entry n (addSources names state r)).target = (entry n r).target := by
  induction names generalizing r with
  | nil => rfl
  | cons name names ih =>
    rw [addSources, List.foldl_cons]
    refine (ih _).trans ?_
    rw [addSource_eq, entry_update (name_withSource state)]
    split
    · rename_i hn
      rw [target_withSource, hn]
    · rfl

theorem mem_sources_addSources {names : List String} {state s : StateId} {r : Registry}
    {n : String} : s ∈ (entry n (addSources names state r)).sources ↔
      s ∈ (entry n r).sources ∨ (n ∈ names ∧ s = state) := by
  induction names generalizing r with
  | nil => simp [addSources]
  | cons name names ih =>
    rw [addSources, List.foldl_cons]
    refine ih.trans ?_
    rw [addSource_eq, entry_update (name_withSource state)]
    by_cases hn : n = name
    · rw [if_pos hn, mem_sources_withSource, hn]
      simp only [List.mem_cons, true_or, true_and]
      tauto
    · rw [if_neg hn]
      simp [hn]

theorem names_addSources {P : String → Prop} {names : List String} {state : StateId}
    (h : ∀ b ∈ r, P b.name) (hn : ∀ n ∈ names, P n) :
    ∀ b ∈ addSources names state r, P b.name := by
  induction names generalizing r with
  | nil => exact h
  | cons name names ih =>
    have h1 : ∀ b ∈ r.addSource name state, P b.name :=
      names_update_all h (hn name (by simp)) (name_withSource state)
    exact ih h1 fun n hm => hn n (by simp [hm])

theorem sound_addSources {names : List String} (h : Sound r) (state : StateId)
    (hn : ∀ n ∈ names, Branch.isReserved n = false) : Sound (addSources names state r) := by
  induction names generalizing r with
  | nil => exact h
  | cons name names ih =>
    have h1 : Sound (r.addSource name state) :=
      sound_update h (hn name (by simp)) (name_withSource state)
    exact ih h1 fun n hm => hn n (by simp [hm])

/-- Everything the registry knows of a name, the other one knows too. -/
structure Extends (r r' : Registry) : Prop where
  target : ∀ name t, (entry name r).target = some t → (entry name r').target = some t
  sources : ∀ name s, s ∈ (entry name r).sources → s ∈ (entry name r').sources

theorem Extends.refl (r : Registry) : Extends r r := ⟨fun _ _ h => h, fun _ _ h => h⟩

theorem Extends.trans {r r' r'' : Registry} (h : Extends r r') (h' : Extends r' r'') :
    Extends r r'' where
  target name t ht := h'.target name t (h.target name t ht)
  sources name s hs := h'.sources name s (h.sources name s hs)

theorem extends_bind {state : StateId} {name : Option String}
    (h : ∀ n, name = some n → ∀ t, (entry n r).target = some t → t = state) :
    Extends r (bind name state r) where
  target n t ht := by
    rw [entry_bind]
    split
    · rename_i hn
      rw [h n hn t ht]
    · exact ht
  sources n s hs := by
    rw [entry_bind]
    split <;> exact hs

theorem extends_addSources {r r' : Registry} (h : Extends r r') (names : List String)
    (state : StateId) : Extends r (addSources names state r') where
  target n t ht := (target_addSources names state r' n).trans (h.target n t ht)
  sources n s hs := mem_sources_addSources.mpr (Or.inl (h.sources n s hs))

theorem Extends.connects {r r' : Registry} (h : Extends r r') (hs : Sound r) (hs' : Sound r')
    {s t : StateId} (hc : Connects r s t) : Connects r' s t := by
  obtain ⟨name, ht, hm⟩ := (connects_iff hs).mp hc
  exact (connects_iff hs').mpr ⟨name, h.target name t ht, h.sources name s hm⟩

end Registry

namespace ResolvedBranch

def toBranch (b : ResolvedBranch) : Branch := ⟨b.name, some b.target, b.sources⟩

end ResolvedBranch

namespace Registry

variable {r : Registry} {branches : List ResolvedBranch}

theorem resolved_cons_none (name : String) (sources : List StateId) (r : Registry) :
    resolved (⟨name, none, sources⟩ :: r) =
      .error (.unresolvedBranch name (sources.map StateId.label)) := by
  unfold resolved
  rw [List.mapM_cons]
  rfl

theorem resolved_cons_some (name : String) (t : StateId) (sources : List StateId)
    (r : Registry) :
    resolved (⟨name, some t, sources⟩ :: r) = r.resolved.map (⟨name, t, sources⟩ :: ·) := by
  unfold resolved
  rw [List.mapM_cons]
  cases List.mapM Branch.resolved r <;> rfl

theorem resolved_ok : r.resolved = .ok branches ↔ r = branches.map ResolvedBranch.toBranch := by
  constructor
  · intro h
    induction r generalizing branches with
    | nil =>
      cases h
      rfl
    | cons b r ih =>
      obtain ⟨name, target, sources⟩ := b
      cases target with
      | none =>
        rw [resolved_cons_none] at h
        cases h
      | some t =>
        rw [resolved_cons_some] at h
        cases hr : resolved r with
        | error cause =>
          rw [hr] at h
          cases h
        | ok bs =>
          rw [hr] at h
          cases h
          simp [ResolvedBranch.toBranch, ← ih hr]
  · rintro rfl
    induction branches with
    | nil => rfl
    | cons b bs ih =>
      rw [List.map_cons, ResolvedBranch.toBranch, resolved_cons_some, ih]
      rfl

theorem names_resolved (h : r.resolved = .ok branches) :
    branches.map ResolvedBranch.name = r.map Branch.name := by
  rw [resolved_ok.mp h, List.map_map]
  rfl

theorem resolved_target (h : r.resolved = .ok branches) {b : Branch} (hb : b ∈ r) :
    ∃ t, b.target = some t ∧ ⟨b.name, t, b.sources⟩ ∈ branches := by
  rw [resolved_ok] at h
  subst h
  obtain ⟨rb, hrb, rfl⟩ := List.mem_map.mp hb
  exact ⟨rb.target, rfl, hrb⟩

theorem resolved_connects (h : r.resolved = .ok branches) {s t : StateId} :
    Connects r s t ↔ ∃ b ∈ branches, b.target = t ∧ s ∈ b.sources := by
  rw [resolved_ok] at h
  subst h
  constructor
  · rintro ⟨b, hb, hbt, hbs⟩
    obtain ⟨rb, hrb, rfl⟩ := List.mem_map.mp hb
    exact ⟨rb, hrb, Option.some.inj hbt, hbs⟩
  · rintro ⟨rb, hrb, rfl, hbs⟩
    exact ⟨rb.toBranch, List.mem_map_of_mem hrb, rfl, hbs⟩

end Registry

namespace Branch

open Registry

variable {r : Registry} {branches : List ResolvedBranch}

theorem substituteText_cons (b : ResolvedBranch) (branches : List ResolvedBranch)
    (text : String) : substituteText (b :: branches) text =
      substituteText branches (Text.replaceToken b.name b.target.label text) :=
  rfl

theorem substituteId_cons (b : ResolvedBranch) (branches : List ResolvedBranch) (id : String) :
    substituteId (b :: branches) id =
      if b.name = id then b.target.label else substituteId branches id := by
  unfold substituteId
  rw [find?_key_cons]
  by_cases h : b.name = id
  · rw [if_pos h, if_pos h]
  · rw [if_neg h, if_neg h]

theorem substituteId_unnamed {id : String} (h : ∀ b ∈ branches, b.name ≠ id) :
    substituteId branches id = id := by
  induction branches with
  | nil => rfl
  | cons b branches ih =>
    rw [substituteId_cons, if_neg (h b (by simp)), ih fun c hc => h c (by simp [hc])]

theorem substituteId_of_mem (hd : (branches.map ResolvedBranch.name).Nodup) {b : ResolvedBranch}
    (hb : b ∈ branches) : substituteId branches b.name = b.target.label := by
  unfold substituteId
  cases hf : branches.find? (·.name == b.name) with
  | none =>
    have hne := List.find?_eq_none.mp hf _ hb
    simp at hne
  | some c =>
    have hn : c.name = b.name := by simpa using List.find?_some hf
    rw [List.inj_on_of_nodup_map hd (List.mem_of_find?_eq_some hf) hb hn]

theorem substituteId_name (hs : Sound r) (h : r.resolved = .ok branches) {b : Branch}
    (hb : b ∈ r) {t : StateId} (ht : b.target = some t) :
    substituteId branches b.name = t.label := by
  obtain ⟨u, hu, hm⟩ := resolved_target h hb
  obtain rfl : u = t := Option.some.inj (hu.symm.trans ht)
  exact substituteId_of_mem (names_resolved h ▸ hs.distinct) hm

theorem substituteId_other (h : r.resolved = .ok branches) {id : String}
    (hid : ∀ b ∈ r, b.name ≠ id) : substituteId branches id = id :=
  substituteId_unnamed fun rb hrb =>
    hid rb.toBranch (resolved_ok.mp h ▸ List.mem_map_of_mem hrb)

/-- The id of a state is reserved, so it is not rewritten. -/
theorem substituteId_label (hs : Sound r) (h : r.resolved = .ok branches)
    (a : StateId) : substituteId branches a.label = a.label :=
  substituteId_other h fun b hb => StateId.label_ne_of_unreserved (hs.unreserved b hb) a

end Branch
end EntityPack
