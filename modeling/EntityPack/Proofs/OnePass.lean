import EntityPack.Proofs.Occurrence
import EntityPack.Proofs.Placeholders
import Mathlib.Data.List.MinMax

/-!
# Placeholders read once

A text read from left to right, in which at every place the longest placeholder is replaced
and what has been put in is not read again. Between two percent signs the text is read on
its own. Replacing one placeholder everywhere is such a reading with one variable.
-/
namespace EntityPack.Variables

def longestAt (texts : Entries String) (text : List Char) : Option (String × String) :=
  (texts.filter fun entry => (placeholder entry.1).toList.isPrefixOf text).argmax (·.1.length)

/-- Reads a text once; the first `skip` characters belong to a placeholder that has been
replaced already. -/
def spliceFrom (texts : Entries String) : Nat → List Char → List Char
  | _, [] => []
  | skip + 1, _ :: rest => spliceFrom texts skip rest
  | 0, c :: rest =>
    match longestAt texts (c :: rest) with
    | some (name, value) => value.toList ++ spliceFrom texts name.length rest
    | none => c :: spliceFrom texts 0 rest

def spliceOnce (texts : Entries String) (text : String) : String :=
  String.ofList (spliceFrom texts 0 text.toList)

structure Plain (v : Variables) (texts : Entries String) : Prop where
  entries : v.entries = texts.map fun entry => (entry.1, .str entry.2)
  named : ∀ entry ∈ texts, entry.1 ≠ ""
  names : ∀ entry ∈ texts, '%' ∉ entry.1.toList
  values : ∀ entry ∈ texts, '%' ∉ entry.2.toList

variable {texts ps : Entries String} {name value : String} {p : String × String}
  {t x rest text : List Char} {ts : List (List Char)} {c : Char} {v : Variables}

theorem placeholder_isPrefixOf (name : String) (c : Char) (t : List Char) :
    (placeholder name).toList.isPrefixOf (c :: t) = (c == '%' && name.toList.isPrefixOf t) := by
  rw [toList_placeholder, List.isPrefixOf_cons_cons, Bool.beq_comm]

theorem longestAt_of_ne (hc : c ≠ '%') : longestAt texts (c :: rest) = none := by
  have hnone : (texts.filter fun entry =>
      (placeholder entry.1).toList.isPrefixOf (c :: rest)) = [] := by
    refine List.filter_eq_nil_iff.mpr fun entry _ => ?_
    rw [placeholder_isPrefixOf, beq_eq_false_iff_ne.mpr hc, Bool.false_and]
    exact Bool.false_ne_true
  rw [longestAt, hnone]
  rfl

theorem longestAt_congr {y : List Char}
    (h : ∀ entry ∈ texts, entry.1.toList <+: x ↔ entry.1.toList <+: y) :
    longestAt texts ('%' :: x) = longestAt texts ('%' :: y) := by
  unfold longestAt
  congr 1
  refine List.filter_congr fun entry hentry => ?_
  rw [Bool.eq_iff_iff, placeholder_isPrefixOf, placeholder_isPrefixOf, beq_self_eq_true,
    Bool.true_and, Bool.true_and, List.isPrefixOf_iff_prefix, List.isPrefixOf_iff_prefix]
  exact h entry hentry

/-- A placeholder does not reach over the next percent sign. -/
theorem longestAt_before (hn : ∀ entry ∈ texts, '%' ∉ entry.1.toList)
    (hr : rest = [] ∨ ∃ rest', rest = '%' :: rest') :
    longestAt texts ('%' :: (x ++ rest)) = longestAt texts ('%' :: x) := by
  refine longestAt_congr fun entry hentry => ?_
  rcases hr with rfl | ⟨rest', rfl⟩
  · rw [List.append_nil]
  · exact Text.prefix_before (hn entry hentry)

theorem mem_fitting : p ∈ (texts.filter fun entry =>
    (placeholder entry.1).toList.isPrefixOf ('%' :: x)) ↔ p ∈ texts ∧ p.1.toList <+: x := by
  rw [List.mem_filter, placeholder_isPrefixOf, beq_self_eq_true, Bool.true_and,
    List.isPrefixOf_iff_prefix]

theorem prefix_of_longestAt (h : longestAt texts ('%' :: x) = some p) :
    p ∈ texts ∧ p.1.toList <+: x :=
  mem_fitting.mp (List.argmax_mem (Option.mem_def.mpr h))

theorem le_of_longestAt (h : longestAt texts ('%' :: x) = some p) {q : String × String}
    (hq : q ∈ texts) (hbegins : q.1.toList <+: x) : q.1.length ≤ p.1.length := by
  have hfits := mem_fitting.mpr ⟨hq, hbegins⟩
  exact List.le_of_mem_argmax (f := fun entry : String × String => entry.1.length) hfits h

theorem longestAt_eq_none : longestAt texts ('%' :: x) = none ↔
    ∀ entry ∈ texts, ¬ entry.1.toList <+: x := by
  rw [longestAt, List.argmax_eq_none, List.eq_nil_iff_forall_not_mem]
  simp only [mem_fitting, not_and]

/-- What comes of a percent sign and the text up to the next one. -/
def fill (texts : Entries String) (x : List Char) : List Char :=
  match longestAt texts ('%' :: x) with
  | some (name, value) => value.toList ++ x.drop name.length
  | none => '%' :: x

theorem spliceFrom_copy (h : '%' ∉ t) (rest : List Char) :
    spliceFrom texts 0 (t ++ rest) = t ++ spliceFrom texts 0 rest := by
  induction t with
  | nil => rfl
  | cons c t ih =>
    rw [List.mem_cons, not_or] at h
    rw [List.cons_append, spliceFrom, longestAt_of_ne (Ne.symm h.1), ih h.2, List.cons_append]

theorem spliceFrom_skip (t rest : List Char) :
    spliceFrom texts t.length (t ++ rest) = spliceFrom texts 0 rest := by
  induction t with
  | nil => rfl
  | cons c t ih => rw [List.cons_append, List.length_cons, spliceFrom, ih]

theorem spliceFrom_pieces (hn : ∀ entry ∈ texts, '%' ∉ entry.1.toList) (ht : '%' ∉ t)
    (hts : ∀ x ∈ ts, '%' ∉ x) :
    spliceFrom texts 0 (t ++ ts.flatMap ('%' :: ·)) = t ++ ts.flatMap (fill texts) := by
  induction ts generalizing t with
  | nil =>
    rw [spliceFrom_copy ht]
    rfl
  | cons x ts ih =>
    rw [List.forall_mem_cons] at hts
    have hbefore : longestAt texts ('%' :: (x ++ ts.flatMap ('%' :: ·))) =
        longestAt texts ('%' :: x) := by
      refine longestAt_before hn ?_
      cases ts with
      | nil => exact Or.inl rfl
      | cons y ts => exact Or.inr ⟨_, rfl⟩
    rw [spliceFrom_copy ht, List.flatMap_cons, List.flatMap_cons, List.cons_append, spliceFrom,
      hbefore, fill]
    cases hl : longestAt texts ('%' :: x) with
    | none =>
      rw [ih hts.1 hts.2, List.cons_append]
    | some p =>
      obtain ⟨-, r, rfl⟩ := prefix_of_longestAt hl
      have hr : '%' ∉ r := fun hmem => hts.1 (List.mem_append_right _ hmem)
      simp only
      rw [← String.length_toList, List.append_assoc, spliceFrom_skip, ih hr hts.2, List.drop_left,
        List.append_assoc]

theorem exists_pieces (text : List Char) : ∃ t ts, text.splitOn '%' = t :: ts ∧ '%' ∉ t ∧
    (∀ x ∈ ts, '%' ∉ x) ∧ text = t ++ ts.flatMap ('%' :: ·) := by
  induction text using Text.separated_induction '%' with
  | last x hx => exact ⟨x, [], List.splitOn_eq_singleton hx, hx, by simp, by simp⟩
  | more x rest hx ih =>
    obtain ⟨t, ts, hsplit, ht, hts, rfl⟩ := ih
    refine ⟨x, t :: ts, ?_, hx, List.forall_mem_cons.mpr ⟨ht, hts⟩, rfl⟩
    rw [List.splitOn_append_cons_self_of_not_mem hx, hsplit]

/-- Replacing one placeholder everywhere is reading once with one variable. -/
theorem replaceFrom_placeholder (skip : Nat) (text : List Char) :
    Text.replaceFrom (placeholder name).toList value.toList skip text =
      spliceFrom [(name, value)] skip text := by
  induction text generalizing skip with
  | nil => cases skip <;> rfl
  | cons c text ih =>
    cases skip with
    | succ skip => rw [Text.replaceFrom, spliceFrom, ih]
    | zero =>
      have hlength : (placeholder name).toList.length - 1 = name.length := by
        rw [toList_placeholder, List.length_cons, String.length_toList, Nat.add_sub_cancel]
      rw [Text.replaceFrom, spliceFrom, longestAt, hlength, ih, ih]
      by_cases hp : (placeholder name).toList.isPrefixOf (c :: text) = true
      · rw [if_pos hp, List.filter_cons_of_pos (by exact hp)]
        rfl
      · rw [if_neg hp, List.filter_cons_of_neg (by exact hp)]
        rfl

theorem replaceAll_placeholder (name value text : String) :
    Text.replaceAll (placeholder name) value text = spliceOnce [(name, value)] text := by
  rw [Text.replaceAll, spliceOnce, replaceFrom_placeholder]

def Precedes (m n : String) : Prop :=
  n.utf8ByteSize < m.utf8ByteSize ∨ n.utf8ByteSize = m.utf8ByteSize ∧ m < n

instance (m n : String) : Decidable (Precedes m n) := inferInstanceAs (Decidable (_ ∨ _))

def Ordered (ps : Entries String) : Prop := ps.Pairwise fun p q => Precedes p.1 q.1

theorem Precedes.asymm {m n : String} (h : Precedes m n) : ¬ Precedes n m := by
  rintro (hlt' | ⟨heq', hlt'⟩) <;> rcases h with hlt | ⟨heq, hlt⟩
  · omega
  · omega
  · omega
  · exact String.lt_irrefl m (String.lt_trans hlt hlt')

theorem Precedes.ne {m n : String} (h : Precedes m n) : m ≠ n := by
  rintro rfl
  exact h.asymm h

theorem not_precedes_of_begins {m n : String} (h : m.toList <+: n.toList) : ¬ Precedes m n := by
  obtain ⟨rest, hrest⟩ := h
  obtain rfl : m ++ String.ofList rest = n := by
    rw [← String.toList_inj, String.toList_append, String.toList_ofList, hrest]
  rintro (hlt | ⟨heq, hlt⟩)
  · rw [String.utf8ByteSize_append] at hlt
    omega
  · rw [String.utf8ByteSize_append] at heq
    have hempty : String.ofList rest = "" := String.utf8ByteSize_eq_zero_iff.mp (by omega)
    rw [hempty, String.append_empty] at hlt
    exact String.lt_irrefl m hlt

/-- A variable is put behind all those whose names are at least as long. -/
theorem placeByLength_ordered {acc : Entries String} (ho : Ordered acc)
    (hlt : ∀ q ∈ acc, q.1 < p.1) : ∃ acc', acc'.Perm (p :: acc) ∧ Ordered acc' ∧
      placeByLength (placeholder p.1, .str p.2) (acc.map fun q => (placeholder q.1, .str q.2)) =
        acc'.map fun q => (placeholder q.1, .str q.2) := by
  have hsize : ∀ m n : String, (placeholder m).utf8ByteSize < (placeholder n).utf8ByteSize ↔
      m.utf8ByteSize < n.utf8ByteSize := by
    intro m n
    rw [placeholder, placeholder, String.utf8ByteSize_append, String.utf8ByteSize_append]
    omega
  induction acc with
  | nil => exact ⟨[p], .refl _, List.pairwise_singleton _ _, rfl⟩
  | cons q acc ih =>
    rw [List.map_cons, placeByLength]
    obtain ⟨hq, hrest⟩ := List.pairwise_cons.mp ho
    by_cases hshort : q.1.utf8ByteSize < p.1.utf8ByteSize
    · refine ⟨p :: q :: acc, .refl _, List.pairwise_cons.mpr ⟨fun r hr => Or.inl ?_, ho⟩, ?_⟩
      · rcases List.mem_cons.mp hr with rfl | hr
        · exact hshort
        · rcases hq r hr with h | h <;> omega
      · rw [if_pos ((hsize _ _).mpr hshort)]
        rfl
    · obtain ⟨acc', hperm, hordered, heq⟩ := ih hrest fun r hr => hlt r (by simp [hr])
      refine ⟨q :: acc', (hperm.cons q).trans (.swap p q acc),
        List.pairwise_cons.mpr ⟨fun r hr => ?_, hordered⟩, ?_⟩
      · rcases List.mem_cons.mp (hperm.subset hr) with rfl | hr
        · have hname := hlt q (by simp)
          by_cases hsame : r.1.utf8ByteSize = q.1.utf8ByteSize
          · exact Or.inr ⟨hsame, hname⟩
          · exact Or.inl (by omega)
        · exact hq r hr
      · rw [if_neg ((hsize _ _).not.mpr hshort), heq]
        rfl

theorem foldl_placeByLength_ordered (entries : Entries String)
    (hkeys : (Entries.keys entries).Pairwise (· < ·)) {acc : Entries String} (ho : Ordered acc)
    (hacc : ∀ q ∈ acc, ∀ entry ∈ entries, q.1 < entry.1) :
    ∃ ps : Entries String, ps.Perm (entries ++ acc) ∧ Ordered ps ∧
      (entries.map fun entry => (entry.1, Json.str entry.2)).foldl
        (fun acc entry => placeByLength ("%" ++ entry.1, entry.2) acc)
        (acc.map fun q => (placeholder q.1, .str q.2)) =
      ps.map fun q => (placeholder q.1, .str q.2) := by
  induction entries generalizing acc with
  | nil => exact ⟨acc, .refl _, ho, rfl⟩
  | cons entry entries ih =>
    obtain ⟨hfirst, hkeys⟩ := List.pairwise_cons.mp hkeys
    obtain ⟨acc', hperm, ho', hplace⟩ :=
      placeByLength_ordered (p := entry) ho fun q hq => hacc q hq entry (by simp)
    have hacc' : ∀ q ∈ acc', ∀ later ∈ entries, q.1 < later.1 := by
      intro q hq later hlater
      rcases List.mem_cons.mp (hperm.subset hq) with rfl | hq
      · exact hfirst later.1 (List.mem_map_of_mem hlater)
      · exact hacc q hq later (by simp [hlater])
    obtain ⟨ps, hps, hordered, heq⟩ := ih hkeys ho' hacc'
    refine ⟨ps, (hps.trans (hperm.append_left entries)).trans List.perm_middle, hordered, ?_⟩
    rw [List.map_cons, List.foldl_cons, ← heq, ← hplace]
    rfl

theorem Plain.sorted (h : Plain v texts) : (Entries.keys texts).Pairwise (· < ·) := by
  have hkeys := v.sorted
  rw [h.entries, Entries.keys, List.map_map] at hkeys
  exact hkeys

theorem exists_order (h : Plain v texts) : ∃ ps : Entries String, ps.Perm texts ∧ Ordered ps ∧
    v.patterns = ps.map fun p => (placeholder p.1, .str p.2) := by
  have hempty : Ordered [] := .nil
  obtain ⟨ps, hperm, ho, heq⟩ := foldl_placeByLength_ordered texts h.sorted hempty (by simp)
  rw [List.append_nil] at hperm
  refine ⟨ps, hperm, ho, ?_⟩
  rw [patterns, h.entries]
  exact heq

def first (ps : Entries String) (x : List Char) : Option (String × String) :=
  ps.find? fun p => p.1.toList.isPrefixOf x

theorem first_cons_begins (h : p.1.toList <+: x) : first (p :: ps) x = some p :=
  List.find?_cons_of_pos (List.isPrefixOf_iff_prefix.mpr h)

theorem first_cons_other (h : ¬ p.1.toList <+: x) : first (p :: ps) x = first ps x :=
  List.find?_cons_of_neg (by rwa [List.isPrefixOf_iff_prefix])

theorem first_congr {y : List Char} (h : ∀ p ∈ ps, p.1.toList <+: x ↔ p.1.toList <+: y) :
    first ps x = first ps y := by
  induction ps with
  | nil => rfl
  | cons p ps ih =>
    rw [List.forall_mem_cons] at h
    by_cases hx : p.1.toList <+: x
    · rw [first_cons_begins hx, first_cons_begins (h.1.mp hx)]
    · rw [first_cons_other hx, first_cons_other (h.1.not.mp hx), ih h.2]

theorem begins_of_first (h : (first ps x).map (·.1) = some name) : name.toList <+: x := by
  obtain ⟨p, hp, rfl⟩ := Option.map_eq_some_iff.mp h
  have hfound : p.1.toList.isPrefixOf x = true := by simpa using List.find?_some hp
  exact List.isPrefixOf_iff_prefix.mp hfound

/-- Which name comes first is a matter of the names. -/
theorem first_names {ps' : Entries String} (h : Entries.keys ps = Entries.keys ps')
    (x : List Char) : (first ps x).map (·.1) = (first ps' x).map (·.1) := by
  have hnames : ∀ qs : Entries String, (first qs x).map (·.1) =
      (Entries.keys qs).find? fun name => name.toList.isPrefixOf x := by
    intro qs
    rw [Entries.keys, List.find?_map]
    rfl
  rw [hnames, hnames, h]

/-- Of the variables in order, the first that fits has the longest name. -/
theorem longestAt_eq_first (hp : ps.Perm texts) (ho : Ordered ps) (x : List Char) :
    longestAt texts ('%' :: x) = first ps x := by
  cases hl : longestAt texts ('%' :: x) with
  | none =>
    refine (List.find?_eq_none.mpr fun p hmem hstarts => ?_).symm
    exact longestAt_eq_none.mp hl p (hp.subset hmem) (List.isPrefixOf_iff_prefix.mp hstarts)
  | some m =>
    obtain ⟨hmem, hm⟩ := prefix_of_longestAt hl
    cases hf : first ps x with
    | none =>
      have hnot := List.find?_eq_none.mp hf m (hp.symm.subset hmem)
      exact (hnot (List.isPrefixOf_iff_prefix.mpr hm)).elim
    | some p =>
      obtain ⟨hstarts, earlier, later, rfl, hearlier⟩ := List.find?_eq_some_iff_append.mp hf
      have hpx := List.isPrefixOf_iff_prefix.mp hstarts
      rcases List.mem_append.mp (hp.symm.subset hmem) with hin | hin
      · have hnot := hearlier m hin
        rw [List.isPrefixOf_iff_prefix.mpr hm] at hnot
        cases hnot
      · rcases List.mem_cons.mp hin with rfl | hin
        · rfl
        · -- The longest name would come behind a name that is its beginning.
          have hpm : Precedes p.1 m.1 :=
            (List.pairwise_cons.mp (List.pairwise_append.mp ho).2.1).1 m hin
          have hlength := le_of_longestAt hl (hp.subset (by simp)) hpx
          rw [← String.length_toList, ← String.length_toList] at hlength
          have hbegins := List.prefix_of_prefix_length_le hpx hm hlength
          exact (not_precedes_of_begins hbegins hpm).elim

end EntityPack.Variables
