import EntityPack.Json
import Mathlib.Data.List.Basic
import Mathlib.Data.List.Induction

/-!
# Entries as a map

Entries are looked up by their first value. A list of entries that may repeat names becomes a map in
which every name has its last value, and objects in documents are such maps. In other lists an id
stands for its first bearer: a change of the first match that keeps its key is seen only by those
who look up that key. What changes in turn make of a record can be read off the list of the changes,
one field at a time.
-/
namespace EntityPack

section

variable {α κ : Type} [DecidableEq κ] {key : α → κ} {k l : κ} {f : α → α}

theorem find?_key_cons (a : α) (as : List α) :
    (a :: as).find? (key · == k) = if key a = k then some a else as.find? (key · == k) := by
  rw [List.find?_cons]
  by_cases h : key a = k
  · simp [h]
  · rw [if_neg h, beq_false_of_ne h]

theorem map_modifyFirst {β : Type} {g : α → β} (p : α → Bool) (hf : ∀ a, g (f a) = g a)
    (as : List α) : (modifyFirst p f as).map g = as.map g := by
  induction as with
  | nil => rfl
  | cons a as ih =>
    unfold modifyFirst
    split <;> simp [hf, ih]

theorem map_modify {β : Type} {g : α → β} (hf : ∀ a, g (f a) = g a) (as : List α) (i : Nat) :
    (as.modify i f).map g = as.map g := by
  refine List.ext_getElem? fun j => ?_
  rw [List.getElem?_map, List.getElem?_map, List.getElem?_modify]
  cases as[j]? with
  | none => rfl
  | some a => by_cases h : i = j <;> simp [h, hf]

/-- The first element under a key is changed, and those under other keys stay. -/
theorem find?_modifyFirst (hf : ∀ a, key (f a) = key a) (as : List α) :
    (modifyFirst (key · == k) f as).find? (key · == l) =
      if l = k then (as.find? (key · == l)).map f else as.find? (key · == l) := by
  induction as with
  | nil => simp [modifyFirst]
  | cons a as ih =>
    rw [find?_key_cons]
    by_cases ha : key a = k
    · have hm : modifyFirst (key · == k) f (a :: as) = f a :: as := by simp [modifyFirst, ha]
      rw [hm, find?_key_cons, hf, ha]
      by_cases hl : l = k
      · simp [hl]
      · simp [hl, Ne.symm hl]
    · have hm : modifyFirst (key · == k) f (a :: as) = a :: modifyFirst (key · == k) f as := by
        simp [modifyFirst, ha]
      rw [hm, find?_key_cons, ih]
      by_cases hl : key a = l
      · have hne : l ≠ k := hl ▸ ha
        simp [hl, hne]
      · simp [hl]

theorem find?_key_eq_getElem? (as : List α) :
    as.find? (key · == k) = as[(as.map key).idxOf k]? := by
  induction as with
  | nil => rfl
  | cons a as ih =>
    rw [find?_key_cons, List.map_cons, List.idxOf_cons]
    by_cases h : key a = k
    · simp [h]
    · rw [if_neg h, beq_false_of_ne h, cond_false, List.getElem?_cons_succ, ih]

theorem modifyFirst_eq_modify (as : List α) :
    modifyFirst (key · == k) f as = as.modify ((as.map key).idxOf k) f := by
  induction as with
  | nil => rfl
  | cons a as ih =>
    rw [List.map_cons, List.idxOf_cons]
    by_cases h : key a = k
    · simp [modifyFirst, h]
    · rw [beq_false_of_ne h, cond_false, List.modify_succ_cons, ← ih]
      simp [modifyFirst, h]

theorem mem_modifyFirst {p : α → Bool} {a : α} {as : List α} (h : a ∈ modifyFirst p f as) :
    a ∈ as ∨ ∃ b ∈ as, p b = true ∧ a = f b := by
  induction as with
  | nil => cases h
  | cons b as ih =>
    unfold modifyFirst at h
    split at h
    · rename_i hb
      rcases List.mem_cons.mp h with rfl | h
      · exact Or.inr ⟨b, by simp, hb, rfl⟩
      · exact Or.inl (List.mem_cons_of_mem b h)
    · rcases List.mem_cons.mp h with rfl | h
      · exact Or.inl (by simp)
      · refine (ih h).imp (List.mem_cons_of_mem b) ?_
        rintro ⟨c, hc, hp, rfl⟩
        exact ⟨c, List.mem_cons_of_mem b hc, hp, rfl⟩

theorem filter_key_eq_singleton {a : α} {as : List α} (hc : (as.map key).count k = 1)
    (hf : as.find? (key · == k) = some a) : as.filter (key · == k) = [a] := by
  have hlen : (as.filter (key · == k)).length = 1 := by
    rw [← List.countP_eq_length_filter, ← hc, List.count_eq_countP, List.countP_map]
    rfl
  obtain ⟨b, hb⟩ := List.length_eq_one_iff.mp hlen
  rw [← List.head?_filter, hb] at hf
  rw [hb, Option.some.inj hf]

section Changes

variable {σ ε : Type} {step : σ → ε → σ}

/-- A field that every change keeps or sets has the value that was set last. -/
theorem foldl_set (field : σ → α) {set? : ε → Option α}
    (hstep : ∀ s change, field (step s change) = (set? change).getD (field s)) (s : σ)
    (changes : List ε) :
    field (changes.foldl step s) = ((changes.filterMap set?).getLast?).getD (field s) := by
  induction changes generalizing s with
  | nil => rfl
  | cons change changes ih =>
    rw [List.foldl_cons, ih, hstep]
    cases hset : set? change with
    | none => rw [List.filterMap_cons_none hset, Option.getD_none]
    | some value =>
      rw [List.filterMap_cons_some hset, List.getLast?_cons]
      cases (changes.filterMap set?).getLast? <;> rfl

theorem foldl_add (field : σ → List α) {added : ε → List α}
    (hstep : ∀ s change, field (step s change) = field s ++ added change) (s : σ)
    (changes : List ε) : field (changes.foldl step s) = field s ++ changes.flatMap added := by
  induction changes generalizing s with
  | nil => exact (List.append_nil _).symm
  | cons change changes ih =>
    rw [List.foldl_cons, ih, hstep, List.flatMap_cons, List.append_assoc]

end Changes

end

namespace Json

def follow? : List String → Json → Option Json
  | [], value => some value
  | key :: path, value => (value.get? key).bind (follow? path)

def fieldsAt (path : List String) (document : Json) : Entries Json :=
  match document.follow? path with
  | some (.obj fields) => fields
  | _ => []

def itemsAt (path : List String) (document : Json) : List Json :=
  match document.follow? path with
  | some (.arr items) => items
  | _ => []

end Json

namespace Entries

variable {α : Type} {key : String} {value : α} {entries later : Entries α}

theorem get?_eq_find? (key : String) (entries : Entries α) :
    get? key entries = (entries.find? (·.1 == key)).map (·.2) := by
  induction entries with
  | nil => rfl
  | cons entry entries ih =>
    rw [get?, find?_key_cons, ih]
    split <;> rfl

theorem get?_append (key : String) (entries later : Entries α) :
    get? key (entries ++ later) = (get? key entries).or (get? key later) := by
  rw [get?_eq_find?, get?_eq_find?, get?_eq_find?, List.find?_append]
  cases entries.find? (·.1 == key) <;> rfl

theorem get?_filter (p : String → Bool) (key : String) (entries : Entries α) :
    get? key (entries.filter fun entry => p entry.1) =
      if p key then get? key entries else none := by
  have hsame : ∀ entry : String × α,
      decide (p entry.1 = true ∧ (entry.1 == key) = true) = (p key && entry.1 == key) := by
    intro entry
    by_cases hkey : entry.1 = key
    · simp [hkey]
    · simp [hkey]
  rw [get?_eq_find?, get?_eq_find?, List.find?_filter, funext hsame]
  cases p key <;> simp

theorem get?_insert (k : String) (value : α) (entries : Entries α) (key : String) :
    get? key (insert k value entries) = if k = key then some value else get? key entries := by
  induction entries with
  | nil => rfl
  | cons entry entries ih =>
    obtain ⟨j, v⟩ := entry
    by_cases hj : j = k
    · rw [insert, if_pos hj, get?, get?, hj]
      by_cases hk : k = key
      · rw [if_pos hk, if_pos hk]
      · rw [if_neg hk, if_neg hk, if_neg hk]
    · rw [insert, if_neg hj, get?, get?, ih]
      by_cases hk : j = key
      · have hne : k ≠ key := fun h => hj (hk.trans h.symm)
        rw [if_pos hk, if_neg hne, if_pos hk]
      · rw [if_neg hk, if_neg hk]

theorem mem_insert_self (key : String) (value : α) (entries : Entries α) :
    (key, value) ∈ insert key value entries := by
  induction entries with
  | nil => exact List.mem_singleton.mpr rfl
  | cons entry entries ih =>
    rw [insert]
    split
    · exact List.mem_cons_self ..
    · exact List.mem_cons_of_mem _ ih

theorem mem_insert_of_ne {k : String} {v : α} (h : (key, value) ∈ entries) (hne : key ≠ k) :
    (key, value) ∈ insert k v entries := by
  induction entries with
  | nil => cases h
  | cons entry entries ih =>
    rw [insert]
    rcases List.mem_cons.mp h with rfl | h
    · rw [if_neg hne]
      exact List.mem_cons_self ..
    · split
      · exact List.mem_cons_of_mem _ h
      · exact List.mem_cons_of_mem _ (ih h)

theorem mem_insert {k : String} {v : α} {entry : String × α} (h : entry ∈ insert k v entries) :
    entry = (k, v) ∨ entry ∈ entries := by
  induction entries with
  | nil => exact Or.inl (List.mem_singleton.mp h)
  | cons first entries ih =>
    rw [insert] at h
    split at h
    · exact (List.mem_cons.mp h).imp_right (List.mem_cons_of_mem _)
    · rcases List.mem_cons.mp h with rfl | h
      · exact Or.inr (List.mem_cons_self ..)
      · exact (ih h).imp_right (List.mem_cons_of_mem _)

theorem isSome_get? : (get? key entries).isSome = true ↔ key ∈ entries.keys := by
  induction entries with
  | nil => simp [get?, keys]
  | cons entry entries ih =>
    rw [get?, keys, List.map_cons, List.mem_cons]
    by_cases h : entry.1 = key
    · simp [h]
    · rw [if_neg h, ih]
      exact ⟨Or.inr, fun hm => hm.resolve_left (Ne.symm h)⟩

/-- A name that is present keeps its place, and a new one comes last. -/
theorem keys_insert (key : String) (value : α) (entries : Entries α) :
    (insert key value entries).keys =
      if key ∈ entries.keys then entries.keys else entries.keys ++ [key] := by
  induction entries with
  | nil => rfl
  | cons entry entries ih =>
    unfold keys at ih ⊢
    rw [insert]
    by_cases h : entry.1 = key
    · simp [h]
    · rw [if_neg h, List.map_cons, ih, List.map_cons]
      by_cases hm : key ∈ entries.map (·.1)
      · simp [hm]
      · simp [hm, Ne.symm h]

theorem insert_of_not_mem (h : key ∉ keys entries) (value : α) :
    insert key value entries = entries ++ [(key, value)] := by
  induction entries with
  | nil => rfl
  | cons entry entries ih =>
    obtain ⟨hne, hrest⟩ := not_or.mp (mt List.mem_cons.mpr h)
    rw [insert, if_neg (Ne.symm hne), ih hrest, List.cons_append]

/-- New names come behind the present ones, in the order of their first values. -/
theorem keys_merge (entries later : Entries α) : keys (entries.merge later) =
    keys entries ++ ((keys later).removeAll (keys entries)).eraseDups := by
  induction later generalizing entries with
  | nil => simp [merge, keys]
  | cons entry later ih =>
    have hkeys : keys (entry :: later) = entry.1 :: keys later := rfl
    have hmerge : entries.merge (entry :: later) =
        (insert entry.1 entry.2 entries).merge later := rfl
    rw [hmerge, ih, keys_insert, hkeys, List.cons_removeAll]
    by_cases hm : entry.1 ∈ keys entries
    · simp [hm]
    · have hfresh : (keys later).removeAll (keys entries ++ [entry.1]) =
          ((keys later).removeAll (keys entries)).filter fun key => !key == entry.1 := by
        simp [List.removeAll, Bool.and_comm, Bool.beq_eq_decide_eq]
      simp [hm, hfresh, List.eraseDups_cons]

theorem keys_ofList (entries : Entries α) : keys (ofList entries) = (keys entries).eraseDups := by
  have hmerge := keys_merge [] entries
  have hnil : keys ([] : Entries α) = [] := rfl
  rwa [hnil, List.removeAll_nil, List.nil_append] at hmerge

theorem nodup_keys_insert (h : (keys entries).Nodup) (key : String) (value : α) :
    (keys (insert key value entries)).Nodup := by
  rw [keys_insert]
  split
  · exact h
  · rename_i hm
    refine List.nodup_append.mpr ⟨h, List.pairwise_singleton .., fun name hname other hother => ?_⟩
    rintro rfl
    exact hm (List.mem_singleton.mp hother ▸ hname)

theorem nodup_keys_insert_iff (key : String) (value : α) (entries : Entries α) :
    (keys (insert key value entries)).Nodup ↔ (keys entries).Nodup := by
  constructor
  · intro h
    rw [keys_insert] at h
    split at h
    · exact h
    · exact (List.nodup_append.mp h).1
  · intro h
    exact nodup_keys_insert h key value

theorem nodup_keys_merge (h : (keys entries).Nodup) (later : Entries α) :
    (keys (entries.merge later)).Nodup := by
  induction later generalizing entries with
  | nil => exact h
  | cons entry later ih => exact ih (nodup_keys_insert h entry.1 entry.2)

theorem nodup_keys_ofList (entries : Entries α) : (keys (ofList entries)).Nodup := by
  have hnil : (keys ([] : Entries α)).Nodup := List.nodup_nil
  exact nodup_keys_merge hnil entries

/-- Distinct names leave nothing to replace. -/
theorem merge_of_distinct (h : (keys (entries ++ later)).Nodup) :
    entries.merge later = entries ++ later := by
  induction later generalizing entries with
  | nil => exact (List.append_nil entries).symm
  | cons entry later ih =>
    have hfresh : entry.1 ∉ keys entries := by
      intro hm
      rw [keys, List.map_append] at h
      exact (List.nodup_append.mp h).2.2 _ hm _ (List.mem_cons_self ..) rfl
    have hsnoc : entries ++ entry :: later = insert entry.1 entry.2 entries ++ later := by
      rw [insert_of_not_mem hfresh, List.append_assoc, List.singleton_append]
    rw [hsnoc] at h ⊢
    exact ih h

theorem ofList_of_distinct (h : (keys entries).Nodup) : ofList entries = entries :=
  merge_of_distinct h

theorem mem_merge {entry : String × α} (h : entry ∈ entries.merge later) :
    entry ∈ entries ∨ entry ∈ later := by
  induction later generalizing entries with
  | nil => exact Or.inl h
  | cons first later ih =>
    rcases ih h with h | h
    · rcases mem_insert h with rfl | h
      · exact Or.inr (List.mem_cons_self ..)
      · exact Or.inl h
    · exact Or.inr (List.mem_cons_of_mem _ h)

theorem mem_of_mem_ofList {entry : String × α} (h : entry ∈ ofList entries) : entry ∈ entries :=
  (mem_merge h).resolve_left List.not_mem_nil

/-- A merged list answers with the last value of the later entries. -/
theorem get?_merge (entries later : Entries α) (key : String) :
    get? key (entries.merge later) =
      ((later.reverse.find? (·.1 == key)).map (·.2)).or (get? key entries) := by
  induction later using List.reverseRecOn with
  | nil => rfl
  | append_singleton later entry ih =>
    have hstep : entries.merge (later ++ [entry]) =
        insert entry.1 entry.2 (entries.merge later) := List.foldl_concat ..
    rw [hstep, get?_insert, ih, List.reverse_append, List.reverse_singleton, List.singleton_append,
      find?_key_cons]
    split <;> rfl

theorem get?_ofList (entries : Entries α) (key : String) :
    get? key (ofList entries) = (entries.reverse.find? (·.1 == key)).map (·.2) := by
  have hmerge : get? key (ofList entries) = _ := get?_merge [] entries key
  rw [hmerge]
  exact Option.or_none

theorem get?_ofList_map {β : Type} (name : β → String) (content : β → α) (bs : List β)
    (key : String) : get? key (ofList (bs.map fun b => (name b, content b))) =
      (bs.reverse.find? (name · == key)).map content := by
  rw [get?_ofList, ← List.map_reverse, List.find?_map, Option.map_map]
  rfl

theorem keys_ofList_map {β : Type} (name : β → String) (content : β → α) (bs : List β) :
    keys (ofList (bs.map fun b => (name b, content b))) = (bs.map name).eraseDups := by
  rw [keys_ofList, keys, List.map_map]
  rfl

theorem get?_ofList_of_only (hm : (key, value) ∈ entries)
    (honly : ∀ v, (key, v) ∈ entries → v = value) : get? key (ofList entries) = some value := by
  have hsome : (entries.reverse.find? (·.1 == key)).isSome :=
    List.find?_isSome.mpr ⟨(key, value), List.mem_reverse.mpr hm, beq_self_eq_true key⟩
  obtain ⟨⟨k, v⟩, hfound⟩ := Option.isSome_iff_exists.mp hsome
  obtain rfl : k = key := by simpa using List.find?_some hfound
  have hv := honly v (List.mem_reverse.mp (List.mem_of_find?_eq_some hfound))
  rw [get?_ofList, hfound, Option.map_some, hv]

theorem insert_insert (key : String) (value earlier : α) (entries : Entries α) :
    insert key value (insert key earlier entries) = insert key value entries := by
  induction entries with
  | nil => simp [insert]
  | cons entry entries ih =>
    by_cases h : entry.1 = key
    · simp [insert, h]
    · simp [insert, h, ih]

/-- A name that is present has its place, so it does not matter which value comes first. -/
theorem insert_comm {k : String} (hm : key ∈ keys entries) (hne : k ≠ key) (value v : α) :
    insert key value (insert k v entries) = insert k v (insert key value entries) := by
  induction entries with
  | nil => cases hm
  | cons entry entries ih =>
    by_cases hkey : entry.1 = key
    · simp [insert, hkey, Ne.symm hne]
    · have hrest : key ∈ keys entries := (List.mem_cons.mp hm).resolve_left (Ne.symm hkey)
      by_cases hk : entry.1 = k
      · simp [insert, hk, hne]
      · simp [insert, hkey, hk, ih hrest]

theorem insert_merge (hm : key ∈ keys entries) (hfresh : key ∉ keys later) (value : α) :
    insert key value (entries.merge later) = (insert key value entries).merge later := by
  induction later generalizing entries with
  | nil => rfl
  | cons entry later ih =>
    obtain ⟨hne, hrest⟩ := not_or.mp (mt List.mem_cons.mpr hfresh)
    have hlater : key ∈ keys (insert entry.1 entry.2 entries) := by
      rw [keys_insert]
      split
      · exact hm
      · exact List.mem_append_left _ hm
    have hstep : insert key value ((insert entry.1 entry.2 entries).merge later) =
        (insert key value (insert entry.1 entry.2 entries)).merge later := ih hlater hrest
    exact hstep.trans (congrArg (merge · later) (insert_comm hm (Ne.symm hne) value entry.2))

theorem merge_insert (h : (keys later).Nodup) (key : String) (value : α) (entries : Entries α) :
    entries.merge (insert key value later) = insert key value (entries.merge later) := by
  induction later generalizing entries with
  | nil => rfl
  | cons entry later ih =>
    obtain ⟨hfresh, hrest⟩ := List.nodup_cons.mp h
    by_cases hkey : entry.1 = key
    · obtain ⟨k, earlier⟩ := entry
      obtain rfl : k = key := hkey
      have hmem : k ∈ keys (insert k earlier entries) :=
        List.mem_map_of_mem (mem_insert_self k earlier entries)
      rw [insert, if_pos rfl]
      calc merge (insert k value entries) later
        _ = merge (insert k value (insert k earlier entries)) later := by rw [insert_insert]
        _ = insert k value (merge (insert k earlier entries) later) :=
            (insert_merge hmem hfresh value).symm
    · rw [insert, if_neg hkey]
      exact ih hrest (insert entry.1 entry.2 entries)

/-- Merging a list is merging the map that it stands for. -/
theorem merge_ofList (entries later : Entries α) :
    entries.merge (ofList later) = entries.merge later := by
  induction later using List.reverseRecOn with
  | nil => rfl
  | append_singleton later entry ih =>
    have hsnoc : ∀ base : Entries α, base.merge (later ++ [entry]) =
        insert entry.1 entry.2 (base.merge later) := fun base => List.foldl_concat ..
    rw [hsnoc, ← ih, ← merge_insert (nodup_keys_ofList later)]
    exact congrArg (merge entries) (hsnoc [])

theorem ofList_ofList (entries : Entries α) : ofList (ofList entries) = ofList entries :=
  merge_ofList [] entries

theorem filterMap_keys (h : (keys entries).Nodup) :
    ((keys entries).filterMap fun key => (get? key entries).map (Prod.mk key)) = entries := by
  induction entries with
  | nil => rfl
  | cons entry entries ih =>
    obtain ⟨hfresh, hrest⟩ := List.nodup_cons.mp h
    have hother : ∀ key ∈ keys entries, (get? key (entry :: entries)).map (Prod.mk key) =
        (get? key entries).map (Prod.mk key) := by
      intro key hm
      have hne : entry.1 ≠ key := by
        rintro rfl
        exact hfresh hm
      rw [get?, if_neg hne]
    have hkeys : keys (entry :: entries) = entry.1 :: keys entries := rfl
    rw [hkeys, List.filterMap_cons, get?, if_pos rfl, List.filterMap_congr hother, ih hrest]
    rfl

/-- The last value under a name, which is the one that an object shows. -/
def last? (key : String) (entries : Entries α) : Option α := get? key entries.reverse

theorem last?_cons (entry : String × α) (entries : Entries α) (key : String) :
    last? key (entry :: entries) =
      (last? key entries).or (if entry.1 = key then some entry.2 else none) := by
  rw [last?, List.reverse_cons, get?_append]
  rfl

theorem isSome_last? : (last? key entries).isSome = true ↔ key ∈ keys entries := by
  rw [last?, isSome_get?, keys, keys, List.map_reverse, List.mem_reverse]

theorem last?_insert (name : String) (value : α) (entries : Entries α) (key : String) :
    last? key (insert name value entries) =
      if name = key ∧ (keys entries).count name ≤ 1 then some value else last? key entries := by
  induction entries with
  | nil =>
    rw [insert, last?_cons]
    by_cases h : name = key <;> simp [h, last?, get?, keys]
  | cons entry entries ih =>
    have hkeys : keys (entry :: entries) = entry.1 :: keys entries := rfl
    rw [insert, hkeys, last?_cons]
    by_cases hentry : entry.1 = name
    · rw [if_pos hentry, last?_cons, hentry, List.count_cons_self]
      by_cases hkey : name = key
      · subst hkey
        by_cases hm : name ∈ keys entries
        · obtain ⟨later, hlater⟩ := Option.isSome_iff_exists.mp (isSome_last?.mpr hm)
          have hpos : 0 < (keys entries).count name := List.count_pos_iff.mpr hm
          have hrepeated : ¬ (keys entries).count name + 1 ≤ 1 := by omega
          simp [hlater, hrepeated]
        · have hnone : last? name entries = none :=
            Option.not_isSome_iff_eq_none.mp (mt isSome_last?.mp hm)
          simp [hnone, List.count_eq_zero.mpr hm]
      · simp [hkey]
    · rw [if_neg hentry, last?_cons, ih, List.count_cons_of_ne hentry]
      by_cases hshown : name = key ∧ (keys entries).count name ≤ 1
      · rw [if_pos hshown, if_pos hshown, Option.some_or]
      · rw [if_neg hshown, if_neg hshown]

end Entries
end EntityPack
