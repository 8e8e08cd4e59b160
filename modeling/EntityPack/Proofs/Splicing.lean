import EntityPack.Proofs.OnePass
import Mathlib.Data.List.Chain

/-!
# Variables one after the other

The variables are put in one after the other, the longest name first. This comes to reading
the text once unless a value completes a placeholder: behind a percent sign stands the
beginning of a name, behind that the placeholder of a variable that comes earlier, and the
value of that variable goes on as the name does.
-/
namespace EntityPack.Variables

/-- A value that is put in behind `t` goes on as the name does, which begins with `t`. -/
def Captures (t value name : List Char) : Prop :=
  t <+: name ∧ t ≠ name ∧ (name.drop t.length <+: value ∨ value <+: name.drop t.length)

instance (t value name : List Char) : Decidable (Captures t value name) :=
  inferInstanceAs (Decidable (_ ∧ _ ∧ (_ ∨ _)))

/-- Where the placeholder of this variable stands at the second of two percent signs, its value
completes no placeholder of the others at the first of them. -/
def Apart (p : String × String) (ps : Entries String) (t next : List Char) : Prop :=
  p.1.toList <+: next → ∀ q ∈ ps, ¬ Captures t p.2.toList q.1.toList

def Clear : Entries String → Entries String → List Char → List Char → Prop
  | [], _, _, _ => True
  | p :: ps, rest, t, next =>
    if p.1.toList <+: next then ∀ q ∈ ps ++ rest, ¬ Captures t p.2.toList q.1.toList
    else Clear ps rest t next

def merge (p : String × String) : List Char → List (List Char) → List Char × List (List Char)
  | t, [] => (t, [])
  | t, next :: ts =>
    if p.1.toList <+: next then
      (t ++ p.2.toList ++ (merge p (next.drop p.1.length) ts).1,
        (merge p (next.drop p.1.length) ts).2)
    else (t, (merge p next ts).1 :: (merge p next ts).2)

def mergeAll : Entries String → List Char → List (List Char) → List Char × List (List Char)
  | [], t, ts => (t, ts)
  | p :: ps, t, ts => mergeAll ps (merge p t ts).1 (merge p t ts).2

def spliceInTurn (ps : Entries String) (text : List Char) : List Char :=
  ps.foldl (fun text p => spliceFrom [p] 0 text) text

variable {texts ps rest : Entries String} {p q : String × String}
  {t next x d u value name : List Char} {ts : List (List Char)}

theorem captures_append (hu : u ≠ []) : Captures t value (t ++ u) ↔ u <+: value ∨ value <+: u := by
  simp [Captures, hu]

theorem fill_cons_begins (ho : Ordered (p :: ps)) (hx : p.1.toList <+: x) :
    fill (p :: ps) x = p.2.toList ++ x.drop p.1.length := by
  rw [fill, longestAt_eq_first (.refl _) ho, first_cons_begins hx]

theorem fill_cons_other (ho : Ordered (p :: ps)) (hx : ¬ p.1.toList <+: x) :
    fill (p :: ps) x = fill ps x := by
  rw [fill, longestAt_eq_first (.refl _) ho, first_cons_other hx, fill,
    longestAt_eq_first (.refl _) (List.pairwise_cons.mp ho).2]

theorem fill_nil (x : List Char) : fill [] x = '%' :: x := rfl

/-- Where no more names begin, what is put behind a piece stays behind it. -/
theorem fill_append (h : ∀ q ∈ ps, q.1.toList <+: t ++ d ↔ q.1.toList <+: t) :
    fill ps (t ++ d) = fill ps t ++ d := by
  rw [fill, longestAt_congr h, fill]
  cases hl : longestAt ps ('%' :: t) with
  | none => rfl
  | some q =>
    have hle := (prefix_of_longestAt hl).2.length_le
    rw [String.length_toList] at hle
    simp only
    rw [List.drop_append_of_le_length hle, List.append_assoc]

theorem flatMap_fill_single (p : String × String) (t : List Char) (ts : List (List Char)) :
    t ++ ts.flatMap (fill [p]) = (merge p t ts).1 ++ (merge p t ts).2.flatMap ('%' :: ·) := by
  have ho : Ordered [p] := List.pairwise_singleton _ _
  induction ts generalizing t with
  | nil => rfl
  | cons next ts ih =>
    rw [List.flatMap_cons, merge]
    by_cases hp : p.1.toList <+: next
    · rw [if_pos hp, fill_cons_begins ho hp, List.append_assoc, ih, List.append_assoc,
        List.append_assoc, List.append_assoc]
    · rw [if_neg hp, fill_cons_other ho hp, fill_nil, List.cons_append, ih, List.flatMap_cons,
        List.cons_append]

theorem merge_plain (hv : '%' ∉ p.2.toList) (ht : '%' ∉ t) (hts : ∀ x ∈ ts, '%' ∉ x) :
    '%' ∉ (merge p t ts).1 ∧ ∀ x ∈ (merge p t ts).2, '%' ∉ x := by
  induction ts generalizing t with
  | nil => exact ⟨ht, by simp [merge]⟩
  | cons next ts ih =>
    rw [List.forall_mem_cons] at hts
    rw [merge]
    split
    · obtain ⟨hfirst, hrest⟩ := ih (fun hmem => hts.1 (List.mem_of_mem_drop hmem)) hts.2
      exact ⟨by simp [ht, hv, hfirst], hrest⟩
    · obtain ⟨hfirst, hrest⟩ := ih hts.1 hts.2
      exact ⟨ht, List.forall_mem_cons.mpr ⟨hfirst, hrest⟩⟩

/-- A piece stays, and is followed by the value if the next piece begins with the name. -/
theorem exists_merge_first (p : String × String) (t : List Char) (ts : List (List Char)) :
    ∃ d, (merge p t ts).1 = t ++ d ∧
      (d = [] ∨ ∃ next ∈ ts.head?, p.1.toList <+: next ∧ p.2.toList <+: d) := by
  cases ts with
  | nil => exact ⟨[], (List.append_nil t).symm, Or.inl rfl⟩
  | cons next ts =>
    rw [merge]
    split
    · rename_i hp
      exact ⟨_, List.append_assoc _ _ _, Or.inr ⟨next, rfl, hp, List.prefix_append _ _⟩⟩
    · exact ⟨[], (List.append_nil t).symm, Or.inl rfl⟩

theorem begins_merge (hc : (t :: ts).IsChain (Apart p ps)) (hq : q ∈ ps) :
    q.1.toList <+: (merge p t ts).1 ↔ q.1.toList <+: t := by
  obtain ⟨d, hd, hvalue⟩ := exists_merge_first p t ts
  rw [hd]
  refine ⟨fun h => ?_, fun h => h.trans (List.prefix_append t d)⟩
  rcases hvalue with rfl | ⟨next, hnext, hp, hvalue⟩
  · rwa [List.append_nil] at h
  · have hapart := (List.isChain_cons.mp hc).1 next hnext hp q hq
    rcases List.prefix_or_prefix_of_prefix h (List.prefix_append t d) with hshort | ⟨u, hu⟩
    · exact hshort
    · by_cases hnil : u = []
      · exact ⟨[], by rw [← hu, hnil, List.append_nil, List.append_nil]⟩
      · rw [← hu, List.prefix_append_right_inj] at h
        refine (hapart ?_).elim
        rw [← hu, captures_append hnil]
        exact List.prefix_or_prefix_of_prefix h hvalue

/-- Putting in one variable leaves the same text to be read with the others. -/
theorem flatMap_merge (ho : Ordered (p :: ps)) (hc : ts.IsChain (Apart p ps))
    (t : List Char) : (merge p t ts).1 ++ (merge p t ts).2.flatMap (fill ps) =
      t ++ ts.flatMap (fill (p :: ps)) := by
  induction ts generalizing t with
  | nil => rfl
  | cons next ts ih =>
    have hrest := ih hc.tail
    rw [merge, List.flatMap_cons]
    by_cases hp : p.1.toList <+: next
    · rw [if_pos hp, fill_cons_begins ho hp, List.append_assoc, hrest, List.append_assoc,
        List.append_assoc]
    · -- The piece keeps its names, so that what was put in behind it is copied.
      obtain ⟨d, hd, -⟩ := exists_merge_first p next ts
      have hbegins : ∀ q ∈ ps, q.1.toList <+: next ++ d ↔ q.1.toList <+: next :=
        fun q hq => hd ▸ begins_merge hc hq
      have hbehind := hrest next
      rw [hd, List.append_assoc, List.append_cancel_left_eq] at hbehind
      rw [if_neg hp, fill_cons_other ho hp, List.flatMap_cons, hd, fill_append hbegins,
        List.append_assoc, hbehind]

theorem apart_of_clear (h : ts.IsChain (Clear (p :: ps) rest)) :
    ts.IsChain (Apart p (ps ++ rest)) := by
  refine h.imp fun t next hclear hp => ?_
  rwa [Clear, if_pos hp] at hclear

theorem clear_of_forall (h : ∀ q ∈ ps ++ rest, ∀ value, ¬ Captures t value q.1.toList)
    (next : List Char) : Clear ps rest t next := by
  induction ps with
  | nil => trivial
  | cons p ps ih =>
    rw [List.cons_append, List.forall_mem_cons] at h
    rw [Clear]
    split
    · exact fun q hq => h.2 q hq _
    · exact ih h.2

theorem clear_congr (h : ∀ q ∈ ps, q.1.toList <+: next ↔ q.1.toList <+: x) :
    Clear ps rest t next ↔ Clear ps rest t x := by
  induction ps with
  | nil => rfl
  | cons p ps ih =>
    rw [List.forall_mem_cons] at h
    rw [Clear, Clear, ih h.2]
    simp only [h.1]

/-- What a longer text goes on to was open for any value behind its beginning. -/
theorem Captures.of_append (h : Captures (t ++ value ++ d) u name) : Captures t value name := by
  obtain ⟨⟨w, rfl⟩, hne, -⟩ := h
  have hw : w ≠ [] := by
    rintro rfl
    exact hne (List.append_nil _).symm
  rw [List.append_assoc, List.append_assoc, captures_append (by simp [hw])]
  exact Or.inr (List.prefix_append _ _)

theorem clear_merge (hc : ts.IsChain (Clear (p :: ps) rest)) (t : List Char) :
    (merge p t ts).2.IsChain (Clear ps rest) ∧ ((t :: ts).IsChain (Clear (p :: ps) rest) →
      ((merge p t ts).1 :: (merge p t ts).2).IsChain (Clear ps rest)) := by
  induction ts generalizing t with
  | nil => exact ⟨.nil, fun _ => .singleton _⟩
  | cons next ts ih =>
    rw [merge]
    by_cases hp : p.1.toList <+: next
    · -- The two pieces are one now. Its end is new, but what it could complete was open at `t`.
      rw [if_pos hp]
      have hrest := (ih hc.tail (next.drop p.1.length)).1
      refine ⟨hrest, fun hall => List.isChain_cons.mpr ⟨fun y _ => ?_, hrest⟩⟩
      have hclear := (List.isChain_cons_cons.mp hall).1
      rw [Clear, if_pos hp] at hclear
      exact clear_of_forall (fun q hq value hcap => hclear q hq hcap.of_append) y
    · rw [if_neg hp]
      have hrest := (ih hc.tail next).2 hc
      refine ⟨hrest, fun hall => List.isChain_cons_cons.mpr ⟨?_, hrest⟩⟩
      have hclear := (List.isChain_cons_cons.mp hall).1
      rw [Clear, if_neg hp] at hclear
      refine (clear_congr fun q hq => ?_).mpr hclear
      exact begins_merge (apart_of_clear hc) (List.mem_append_left rest hq)

theorem spliceInTurn_pieces (hn : ∀ p ∈ ps, '%' ∉ p.1.toList) (hv : ∀ p ∈ ps, '%' ∉ p.2.toList)
    (ht : '%' ∉ t) (hts : ∀ x ∈ ts, '%' ∉ x) : spliceInTurn ps (t ++ ts.flatMap ('%' :: ·)) =
      (mergeAll ps t ts).1 ++ (mergeAll ps t ts).2.flatMap ('%' :: ·) := by
  induction ps generalizing t ts with
  | nil => rfl
  | cons p ps ih =>
    rw [List.forall_mem_cons] at hn hv
    obtain ⟨hfirst, hrest⟩ := merge_plain hv.1 ht hts
    rw [mergeAll, ← ih hn.2 hv.2 hfirst hrest, ← flatMap_fill_single,
      ← spliceFrom_pieces (by simpa using hn.1) ht hts]
    rfl

/-- Where nothing is captured, the same text is left to be read with the other variables. -/
theorem flatMap_mergeAll (ho : Ordered (ps ++ rest)) (hc : ts.IsChain (Clear ps rest))
    (t : List Char) : (mergeAll ps t ts).1 ++ (mergeAll ps t ts).2.flatMap (fill rest) =
      t ++ ts.flatMap (fill (ps ++ rest)) := by
  induction ps generalizing t ts with
  | nil => rfl
  | cons p ps ih =>
    rw [mergeAll, ih (List.pairwise_cons.mp ho).2 (clear_merge hc t).1]
    exact flatMap_merge ho (apart_of_clear hc) t

end EntityPack.Variables
