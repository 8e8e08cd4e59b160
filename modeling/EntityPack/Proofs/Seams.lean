import EntityPack.Proofs.Splicing

/-!
# Texts with and without seams

A text has a seam where the placeholder of a variable stands behind a percent sign and the
beginning of a later name: the value of the variable may go on as that name does. What is
written at a seam is read again, so that variables put in one after the other come to one
reading for all values exactly if the text has no seam.
-/
namespace EntityPack.Variables

def pieces (text : String) : List (List Char) := (text.toList.splitOn '%').tail

/-- No value that is put in goes on as a later name that was begun before it. -/
def Seamless (texts : Entries String) (text : String) : Prop :=
  (pieces text).IsChain fun t next => ∀ p ∈ longestAt texts ('%' :: next), ∀ q ∈ texts,
    Precedes p.1 q.1 → ¬ Captures t p.2.toList q.1.toList

instance (texts : Entries String) (text : String) : Decidable (Seamless texts text) :=
  inferInstanceAs (Decidable (List.IsChain _ _))

/-- Where a value is put in no later name was begun before it. -/
def SeamFree (texts : Entries String) (text : String) : Prop :=
  (pieces text).IsChain fun t next => ∀ p ∈ longestAt texts ('%' :: next), ∀ q ∈ texts,
    Precedes p.1 q.1 → t <+: q.1.toList → t = q.1.toList

instance (texts : Entries String) (text : String) : Decidable (SeamFree texts text) :=
  inferInstanceAs (Decidable (List.IsChain _ _))

variable {texts ps rest : Entries String} {p q r : String × String} {name n : String}
  {t next x d u value : List Char} {ts : List (List Char)} {v : Variables} {text : String}

theorem SeamFree.seamless (h : SeamFree texts text) : Seamless texts text :=
  h.imp fun _ _ hfree p hp q hq hlater hcap => hcap.2.1 (hfree p hp q hq hlater hcap.1)

theorem replaceFrom_of_not_occursIn {pattern replacement text : List Char}
    (h : ¬ Text.occursIn pattern text = true) :
    Text.replaceFrom pattern replacement 0 text = text := by
  induction text with
  | nil => rfl
  | cons c text ih =>
    rw [Text.occursIn, Bool.or_eq_true, not_or] at h
    rw [Text.replaceFrom, if_neg h.1, ih h.2]

theorem splice_str (name value text : String) :
    splice text (placeholder name, .str value) = .ok (spliceOnce [(name, value)] text) := by
  rw [← replaceAll_placeholder, splice]
  split
  · rfl
  · rename_i hno
    rw [Text.replaceAll, replaceFrom_of_not_occursIn hno, String.ofList_toList]

theorem foldlM_splice_str (ps : Entries String) (text : String) :
    (ps.map fun p => (placeholder p.1, Json.str p.2)).foldlM splice text =
      .ok (String.ofList (spliceInTurn ps text.toList)) := by
  induction ps generalizing text with
  | nil => exact congrArg _ String.ofList_toList.symm
  | cons p ps ih =>
    rw [List.map_cons, List.foldlM_cons, splice_str]
    refine (ih _).trans ?_
    rw [spliceOnce, String.toList_ofList]
    rfl

theorem apply_inTurn (h : Plain v texts) (hinside : ∀ entry ∈ texts, text ≠ placeholder entry.1)
    (hps : v.patterns = ps.map fun p => (placeholder p.1, .str p.2)) :
    v.apply (.str text) = (.str (String.ofList (spliceInTurn ps text.toList)), .ok ()) := by
  have hsubstitute : substitute v.patterns text =
      .ok (.str (String.ofList (spliceInTurn ps text.toList))) := by
    have hin : ∀ entry ∈ v.entries, text ≠ placeholder entry.1 := by
      rw [h.entries, List.forall_mem_map]
      exact hinside
    rw [substitute_inside hin, hps, foldlM_splice_str]
    rfl
  rw [apply]
  split
  · rename_i hempty
    have hnil : v.patterns = [] := by
      rw [patterns, List.isEmpty_iff.mp hempty]
      rfl
    rw [hnil, eq_comm, List.map_eq_nil_iff] at hps
    rw [hps, spliceInTurn, List.foldl_nil, String.ofList_toList]
  · rw [walk, hsubstitute]

theorem fill_perm (hp : ps.Perm texts) (ho : Ordered ps) : fill texts = fill ps := by
  funext x
  rw [fill, longestAt_eq_first hp ho, fill, longestAt_eq_first (.refl _) ho]

theorem clear_of_first (ho : Ordered (ps ++ rest)) (h : ∀ p ∈ ps, first (ps ++ rest) next = some p →
    ∀ q ∈ ps ++ rest, Precedes p.1 q.1 → ¬ Captures t p.2.toList q.1.toList) :
    Clear ps rest t next := by
  induction ps with
  | nil => trivial
  | cons p ps ih =>
    obtain ⟨hbefore, ho⟩ := List.pairwise_cons.mp ho
    rw [Clear]
    split
    · rename_i hp
      exact fun q hq => h p (by simp) (first_cons_begins hp) q (by simp [List.mem_append.mp hq])
        (hbefore q hq)
    · rename_i hp
      exact ih ho fun r hr hfirst q hq => h r (by simp [hr]) ((first_cons_other hp).trans hfirst) q
        (by simp [List.mem_append.mp hq])

theorem exists_first_piece (text : String) : ∃ t, '%' ∉ t ∧ (∀ x ∈ pieces text, '%' ∉ x) ∧
    text.toList = t ++ (pieces text).flatMap ('%' :: ·) := by
  obtain ⟨t, ts, hsplit, ht, hts, htext⟩ := exists_pieces text.toList
  have hpieces : pieces text = ts := by rw [pieces, hsplit, List.tail_cons]
  exact ⟨t, ht, hpieces ▸ hts, hpieces ▸ htext⟩

theorem exists_readings (h : Plain v texts) (hp : ps.Perm texts) (ho : Ordered ps)
    (text : String) : ∃ t,
      spliceOnce texts text = String.ofList (t ++ (pieces text).flatMap (fill ps)) ∧
      spliceInTurn ps text.toList = (mergeAll ps t (pieces text)).1 ++
        (mergeAll ps t (pieces text)).2.flatMap (fill []) := by
  obtain ⟨t, ht, hts, htext⟩ := exists_first_piece text
  refine ⟨t, ?_, ?_⟩
  · rw [spliceOnce, htext, spliceFrom_pieces h.names ht hts, fill_perm hp ho]
  · rw [htext]
    exact spliceInTurn_pieces (fun p hmem => h.names p (hp.subset hmem))
      (fun p hmem => h.values p (hp.subset hmem)) ht hts

/-- Without a value that is captured, one variable after the other comes to one reading. -/
theorem spliceInTurn_seamless (h : Plain v texts) (hp : ps.Perm texts) (ho : Ordered ps)
    (hs : Seamless texts text) :
    String.ofList (spliceInTurn ps text.toList) = spliceOnce texts text := by
  have hclear : (pieces text).IsChain (Clear ps []) := by
    refine hs.imp fun t next hseam => clear_of_first (by rwa [List.append_nil]) ?_
    rw [List.append_nil]
    intro p _ hfirst q hq
    rw [← longestAt_eq_first hp ho] at hfirst
    exact hseam p hfirst q (hp.subset hq)
  obtain ⟨t, honce, hinTurn⟩ := exists_readings h hp ho text
  rw [honce, hinTurn, flatMap_mergeAll (by rwa [List.append_nil]) hclear, List.append_nil]

theorem apply_seamless (h : Plain v texts) (hinside : ∀ entry ∈ texts, text ≠ placeholder entry.1)
    (hs : Seamless texts text) :
    v.apply (.str text) = (.str (spliceOnce texts text), .ok ()) := by
  obtain ⟨ps, hp, ho, hpatterns⟩ := exists_order h
  rw [apply_inTurn h hinside hpatterns, spliceInTurn_seamless h hp ho hs]

def Seam (ps : Entries String) (ts : List (List Char)) (t : List Char) (name : String) : Prop :=
  ∃ before next after, ts = before ++ t :: next :: after ∧ (first ps next).map (·.1) = some name

def readLength (ps : Entries String) (text : List Char × List (List Char)) : Nat :=
  text.1.length + (text.2.flatMap (fill ps)).length

theorem ordered_iff_keys : Ordered ps ↔ (Entries.keys ps).Pairwise Precedes :=
  List.pairwise_map.symm

theorem SeamFree.of_keys {v' : Variables} {texts' : Entries String} (h : Plain v texts)
    (h' : Plain v' texts') (hkeys : Entries.keys texts' = Entries.keys texts)
    (hs : SeamFree texts text) : SeamFree texts' text := by
  obtain ⟨ps, hp, ho, -⟩ := exists_order h
  obtain ⟨ps', hp', ho', -⟩ := exists_order h'
  have hnames : Entries.keys ps' = Entries.keys ps := by
    refine List.Perm.eq_of_pairwise (fun m n _ _ hmn hnm => (Precedes.asymm hmn hnm).elim)
      (ordered_iff_keys.mp ho') (ordered_iff_keys.mp ho) ?_
    exact (hp'.map _).trans (hkeys.symm ▸ (hp.map _).symm :
      (Entries.keys texts').Perm (Entries.keys ps))
  refine hs.imp fun t next hfree p hl q hq hlater hx => ?_
  have hfirst : (first ps next).map (·.1) = some p.1 := by
    rw [← first_names hnames, ← longestAt_eq_first hp' ho', Option.mem_def.mp hl]
    rfl
  obtain ⟨m, hm, hmp⟩ := Option.map_eq_some_iff.mp hfirst
  have hname : q.1 ∈ Entries.keys texts := hkeys ▸ List.mem_map_of_mem hq
  obtain ⟨n, hn, hnq⟩ := List.mem_map.mp hname
  rw [← longestAt_eq_first hp ho] at hm
  rw [← hnq] at hlater hx ⊢
  exact hfree m hm n hn (hmp ▸ hlater) hx

/-- A variable put in before the one at the seam leaves the seam. -/
theorem seam_merge (hc : ts.IsChain (Apart r ps)) (hx : ¬ r.1.toList <+: x) (hr : r.1 ≠ name)
    (t : List Char) (hs : Seam (r :: ps) ts x name) : Seam ps (merge r t ts).2 x name := by
  obtain ⟨before, next, after, rfl, hfirst⟩ := hs
  have hnext : ¬ r.1.toList <+: next := by
    intro hbegins
    rw [first_cons_begins hbegins] at hfirst
    exact hr (Option.some.inj hfirst)
  rw [first_cons_other hnext] at hfirst
  induction before generalizing t with
  | nil =>
    refine ⟨[], (merge r next after).1, (merge r next after).2, ?_, ?_⟩
    · rw [List.nil_append, List.nil_append, merge, if_neg hx, merge, if_neg hnext]
    · rw [first_congr fun q hq => begins_merge hc.tail hq]
      exact hfirst
  | cons b before ih =>
    rw [List.cons_append, merge]
    split
    · exact ih _ hc.tail
    · obtain ⟨before', next', after', heq, hfirst'⟩ := ih b hc.tail
      exact ⟨(merge r b _).1 :: before', next', after', congrArg _ heq, hfirst'⟩

theorem length_fill_pos (ho : ∀ q ∈ ps, q.2.length = 1) (x : List Char) :
    0 < (fill ps x).length := by
  rw [fill]
  split
  · rename_i name value hl
    have hvalue := ho _ (prefix_of_longestAt hl).1
    rw [List.length_append, String.length_toList]
    simp only at hvalue
    omega
  · exact Nat.succ_pos _

/-- Where a further name begins, the reading is shorter. -/
theorem length_fill_lt (ho : ∀ q ∈ ps, q.2.length = 1) (hq : q ∈ ps)
    (hbegins : q.1.toList <+: t ++ d) (hnot : ¬ q.1.toList <+: t) :
    (fill ps (t ++ d)).length < (fill ps t).length + d.length := by
  have hlong : t.length < q.1.toList.length := by
    rw [← Nat.not_le]
    exact fun hle => hnot (List.prefix_of_prefix_length_le hbegins (List.prefix_append t d) hle)
  have hpos := length_fill_pos ho t
  cases hl : longestAt ps ('%' :: (t ++ d)) with
  | none => exact (longestAt_eq_none.mp hl q hq hbegins).elim
  | some m =>
    have hlongest := le_of_longestAt hl hq hbegins
    obtain ⟨hm, hwithin⟩ := prefix_of_longestAt hl
    have hvalue := ho m hm
    have hle := hwithin.length_le
    rw [fill, hl]
    simp only [List.length_append, List.length_drop, String.length_toList] at hlong hle hlongest ⊢
    omega

theorem length_fill_le (ho : ∀ q ∈ ps, q.2.length = 1) (t d : List Char) :
    (fill ps (t ++ d)).length ≤ (fill ps t).length + d.length := by
  by_cases h : ∃ q ∈ ps, q.1.toList <+: t ++ d ∧ ¬ q.1.toList <+: t
  · obtain ⟨q, hq, hbegins, hnot⟩ := h
    exact (length_fill_lt ho hq hbegins hnot).le
  · rw [fill_append fun q hq => ⟨fun hbegins => by_contra fun hnot => h ⟨q, hq, hbegins, hnot⟩,
      fun hbegins => hbegins.trans (List.prefix_append t d)⟩, List.length_append]

theorem readLength_merge_step {k : Nat} (ho : Ordered (p :: ps)) (hone : ∀ q ∈ ps, q.2.length = 1)
    (ih : ∀ t, readLength ps (merge p t ts) + k ≤ readLength (p :: ps) (t, ts)) (t : List Char) :
    readLength ps (merge p t (next :: ts)) + k ≤ readLength (p :: ps) (t, next :: ts) := by
  rw [merge]
  by_cases hp : p.1.toList <+: next
  · have hrest := ih (next.drop p.1.length)
    rw [if_pos hp]
    simp only [readLength, List.flatMap_cons, fill_cons_begins ho hp, List.length_append] at hrest ⊢
    omega
  · have hrest := ih next
    obtain ⟨d, hd, -⟩ := exists_merge_first p next ts
    have hfill := length_fill_le hone next d
    rw [if_neg hp]
    simp only [readLength, List.flatMap_cons, fill_cons_other ho hp, List.length_append, hd]
      at hrest ⊢
    omega

theorem readLength_merge_le (ho : Ordered (p :: ps)) (hone : ∀ q ∈ ps, q.2.length = 1)
    (t : List Char) (ts : List (List Char)) :
    readLength ps (merge p t ts) ≤ readLength (p :: ps) (t, ts) := by
  induction ts generalizing t with
  | nil => exact Nat.le_refl _
  | cons next ts ih => exact readLength_merge_step (k := 0) ho hone ih t

/-- At a seam the value completes the placeholder of a later name. -/
theorem readLength_merge_lt (ho : Ordered (p :: ps)) (hone : ∀ q ∈ ps, q.2.length = 1)
    (hq : q ∈ ps) (hname : q.1.toList = x ++ p.2.toList) (hne : p.2.toList ≠ [])
    (hs : Seam (p :: ps) ts x p.1) (t : List Char) :
    readLength ps (merge p t ts) < readLength (p :: ps) (t, ts) := by
  obtain ⟨before, next, after, rfl, hfirst⟩ := hs
  have hbegins : p.1.toList <+: next := begins_of_first hfirst
  have hx : ¬ p.1.toList <+: x := by
    refine fun hp => not_precedes_of_begins ?_ ((List.pairwise_cons.mp ho).1 q hq)
    rw [hname]
    exact hp.trans (List.prefix_append _ _)
  induction before generalizing t with
  | nil =>
    have hrest := readLength_merge_le ho hone x (next :: after)
    have hlater : ¬ q.1.toList <+: x := by
      intro hp
      have hle := hp.length_le
      rw [hname, List.length_append] at hle
      have hpos := List.length_pos_iff.mpr hne
      omega
    -- Read at once, the piece `x` stays and `d` is copied; now both make up the later name.
    rw [List.nil_append, merge, if_neg hx]
    obtain ⟨d, hd, hvalue⟩ : ∃ d, (merge p x (next :: after)).1 = x ++ d ∧ p.2.toList <+: d := by
      rw [merge, if_pos hbegins]
      exact ⟨_, List.append_assoc _ _ _, List.prefix_append _ _⟩
    have hcaught : q.1.toList <+: x ++ d := by
      rw [hname, List.prefix_append_right_inj]
      exact hvalue
    have hfill := length_fill_lt hone hq hcaught hlater
    simp only [readLength, List.flatMap_cons, List.length_append, hd, fill_cons_other ho hx]
      at hrest ⊢
    omega
  | cons b before ih => exact readLength_merge_step (k := 1) ho hone ih t

theorem readLength_mergeAll_le (ho : Ordered ps) (hone : ∀ q ∈ ps, q.2.length = 1)
    (t : List Char) (ts : List (List Char)) :
    readLength [] (mergeAll ps t ts) ≤ readLength ps (t, ts) := by
  induction ps generalizing t ts with
  | nil => exact Nat.le_refl _
  | cons p ps ih =>
    obtain ⟨-, hone⟩ := List.forall_mem_cons.mp hone
    exact (ih (List.pairwise_cons.mp ho).2 hone _ _).trans (readLength_merge_le ho hone t ts)

/-- The value that is put in at a seam completes the placeholder of a later name. -/
theorem readLength_mergeAll_lt (ho : Ordered (rest ++ p :: ps)) (hone : ∀ q ∈ ps, q.2.length = 1)
    (hq : q ∈ ps) (hname : q.1.toList = x ++ p.2.toList) (hne : p.2.toList ≠ [])
    (hs : Seam (rest ++ p :: ps) ts x p.1)
    (hc : ts.IsChain (Clear rest (p :: ps))) (t : List Char) :
    readLength [] (mergeAll (rest ++ p :: ps) t ts) < readLength (rest ++ p :: ps) (t, ts) := by
  induction rest generalizing t ts with
  | nil =>
    exact (readLength_mergeAll_le (List.pairwise_cons.mp ho).2 hone _ _).trans_lt
      (readLength_merge_lt ho hone hq hname hne hs t)
  | cons r rest ih =>
    obtain ⟨hbefore, hrest⟩ := List.pairwise_cons.mp ho
    have hapart := apart_of_clear hc
    have hx : ¬ r.1.toList <+: x := by
      refine fun hr => not_precedes_of_begins ?_ (hbefore q (by simp [hq]))
      rw [hname]
      exact hr.trans (List.prefix_append _ _)
    have hr : r.1 ≠ p.1 := (hbefore p (by simp)).ne
    have hlength := congrArg List.length (flatMap_merge ho hapart t)
    rw [List.length_append, List.length_append] at hlength
    exact (ih hrest (seam_merge hapart hx hr t hs) (clear_merge hc t).1 _).trans_eq hlength

/-- The placeholder of this name is put in behind the beginning of a later name. -/
def Open (ps : Entries String) (ts : List (List Char)) (name : String) : Prop :=
  ∃ x, Seam ps ts x name ∧
    ∃ n ∈ Entries.keys ps, Precedes name n ∧ x <+: n.toList ∧ x ≠ n.toList

theorem open_congr {ps' : Entries String} (h : Entries.keys ps = Entries.keys ps') :
    Open ps ts name ↔ Open ps' ts name := by
  simp only [Open, Seam, first_names h, h]

theorem exists_open (h : Plain v texts) (hs : ¬ SeamFree texts text) :
    ∃ earlier p later, (earlier ++ p :: later).Perm texts ∧ Ordered (earlier ++ p :: later) ∧
      Open (earlier ++ p :: later) (pieces text) p.1 ∧
      ∀ r ∈ earlier, ¬ Open (earlier ++ p :: later) (pieces text) r.1 := by
  classical
  obtain ⟨ps, hp, ho, -⟩ := exists_order h
  have hsome : (ps.find? fun p => decide (Open ps (pieces text) p.1)).isSome := by
    rw [SeamFree, List.isChain_iff_forall_rel_of_append_cons_cons] at hs
    push Not at hs
    obtain ⟨x, next, before, after, heq, p, hl, q, hq, hlater, hx, hne⟩ := hs
    rw [longestAt_eq_first hp ho] at hl
    refine List.find?_isSome.mpr ⟨p, List.mem_of_find?_eq_some hl, decide_eq_true ?_⟩
    refine ⟨x, ⟨before, next, after, heq, ?_⟩, q.1, List.mem_map_of_mem (hp.symm.subset hq),
      hlater, hx, hne⟩
    rw [Option.mem_def.mp hl]
    rfl
  obtain ⟨p, hfound⟩ := Option.isSome_iff_exists.mp hsome
  obtain ⟨hopen, earlier, later, rfl, hearlier⟩ := List.find?_eq_some_iff_append.mp hfound
  exact ⟨earlier, p, later, hp, ho, of_decide_eq_true hopen,
    fun r hr => by simpa using hearlier r hr⟩

theorem clear_of_not_open (ho : Ordered (ps ++ rest))
    (h : ∀ p ∈ ps, ¬ Open (ps ++ rest) ts p.1) : ts.IsChain (Clear ps rest) := by
  rw [List.isChain_iff_forall_rel_of_append_cons_cons]
  intro t next before after heq
  refine clear_of_first ho fun p hp hfirst q hq hlater hcap => h p hp ?_
  refine ⟨t, ⟨before, next, after, heq, ?_⟩, q.1, List.mem_map_of_mem hq, hlater, hcap.1, hcap.2.1⟩
  rw [hfirst]
  rfl

/-- The same names with values of one character, except for one name. -/
def baited (name value : String) (entries : Entries String) : Entries String :=
  entries.map fun entry => (entry.1, if entry.1 = name then value else "x")

theorem keys_baited (name value : String) (entries : Entries String) :
    Entries.keys (baited name value entries) = Entries.keys entries := by
  rw [baited, Entries.keys, List.map_map]
  rfl

theorem baited_cons (p : String × String) (value : String) (earlier later : Entries String) :
    baited p.1 value (earlier ++ p :: later) =
      baited p.1 value earlier ++ (p.1, value) :: baited p.1 value later := by
  simp [baited]

theorem length_baited {later : Entries String} (ho : Ordered (p :: later)) (value : String) :
    ∀ q ∈ baited p.1 value later, q.2.length = 1 := by
  refine List.forall_mem_map.mpr fun entry hentry => ?_
  have hprecedes := (List.pairwise_cons.mp ho).1 entry hentry
  rw [if_neg hprecedes.ne.symm]
  exact (by decide : "x".length = 1)

theorem Ordered.eq_of_perm {ps' : Entries String} (h : Ordered ps) (h' : Ordered ps')
    (hp : ps.Perm ps') : ps = ps' :=
  List.Perm.eq_of_pairwise (fun _ _ _ _ hpq hqp => (Precedes.asymm hpq hqp).elim) h h' hp

theorem mem_later {earlier later : Entries String} (ho : Ordered (earlier ++ p :: later))
    (hn : n ∈ Entries.keys (earlier ++ p :: later)) (h : Precedes p.1 n) :
    n ∈ Entries.keys later := by
  obtain ⟨q, hq, rfl⟩ := List.mem_map.mp hn
  obtain ⟨-, -, hacross⟩ := List.pairwise_append.mp ho
  rcases List.mem_append.mp hq with hq | hq
  · exact (h.asymm (hacross q hq p (by simp))).elim
  · rcases List.mem_cons.mp hq with rfl | hq
    · exact (h.ne rfl).elim
    · exact List.mem_map_of_mem hq

theorem exists_baited (h : Plain v texts) (name : String) (hvalue : '%' ∉ value) :
    ∃ v', Plain v' (baited name (String.ofList value) texts) := by
  have hkeys : Entries.keys ((baited name (String.ofList value) texts).map
      fun entry => (entry.1, Json.str entry.2)) = Entries.keys texts := by
    rw [Entries.keys, List.map_map]
    exact keys_baited name (String.ofList value) texts
  refine ⟨⟨_, hkeys ▸ h.sorted⟩, rfl, List.forall_mem_map.mpr h.named,
    List.forall_mem_map.mpr h.names, List.forall_mem_map.mpr fun entry _ => ?_⟩
  simp only
  split
  · rwa [String.toList_ofList]
  · decide

/-- A value that completes a later name at the first seam is read again. -/
theorem spliceInTurn_open (h : Plain v texts) (hp : (rest ++ p :: ps).Perm texts)
    (ho : Ordered (rest ++ p :: ps)) (hone : ∀ q ∈ ps, q.2.length = 1) (hq : q ∈ ps)
    (hname : q.1.toList = x ++ p.2.toList) (hne : p.2.toList ≠ [])
    (hs : Seam (rest ++ p :: ps) (pieces text) x p.1)
    (hno : ∀ r ∈ rest, ¬ Open (rest ++ p :: ps) (pieces text) r.1) :
    String.ofList (spliceInTurn (rest ++ p :: ps) text.toList) ≠ spliceOnce texts text := by
  obtain ⟨t, honce, hinTurn⟩ := exists_readings h hp ho text
  have hshorter := readLength_mergeAll_lt ho hone hq hname hne hs (clear_of_not_open ho hno) t
  rw [honce, hinTurn]
  intro heq
  have hlength := congrArg List.length (String.ofList_inj.mp heq)
  rw [List.length_append, List.length_append] at hlength
  exact hshorter.ne hlength

/-- If the text has a seam, some values are captured there. -/
theorem exists_captured (h : Plain v texts)
    (hinside : ∀ entry ∈ texts, text ≠ placeholder entry.1) (hseam : ¬ SeamFree texts text) :
    ∃ v' texts', Entries.keys texts' = Entries.keys texts ∧ Plain v' texts' ∧
      v'.apply (.str text) ≠ (.str (spliceOnce texts' text), .ok ()) := by
  obtain ⟨earlier, p, later, hp, ho, ⟨x, hs, n, hn, hlater, ⟨u, hu⟩, hne⟩, hno⟩ :=
    exists_open h hseam
  have hu' : '%' ∉ u := by
    obtain ⟨q, hq, rfl⟩ := List.mem_map.mp hn
    exact fun hmem => h.names q (hp.subset hq) (hu ▸ List.mem_append_right x hmem)
  -- The value of the first variable with a seam is the rest of the later name.
  obtain ⟨v', h'⟩ := exists_baited h p.1 hu'
  have hkeys := keys_baited p.1 (String.ofList u)
  have hbaited : Ordered (baited p.1 (String.ofList u) (earlier ++ p :: later)) := by
    rw [ordered_iff_keys, hkeys, ← ordered_iff_keys]
    exact ho
  have hsplit := baited_cons p (String.ofList u) earlier later
  obtain ⟨ps, hp', ho', hpatterns⟩ := exists_order h'
  obtain rfl := ho'.eq_of_perm hbaited (hp'.trans (hp.map _).symm)
  refine ⟨v', _, hkeys texts, h', ?_⟩
  rw [apply_inTurn h' (List.forall_mem_map.mpr hinside) hpatterns]
  have hn' : n ∈ Entries.keys (baited p.1 (String.ofList u) later) := by
    rw [hkeys]
    exact mem_later ho hn hlater
  obtain ⟨q, hq, rfl⟩ := List.mem_map.mp hn'
  have hone := length_baited (List.pairwise_append.mp ho).2.1 (String.ofList u)
  have hsame := (hkeys (earlier ++ p :: later)).symm
  simp only [Seam, first_names hsame] at hs
  simp only [open_congr hsame] at hno
  rw [hsplit] at hp' ho' hs hno
  have hrest : (String.ofList u).toList ≠ [] := by
    rw [String.toList_ofList]
    rintro rfl
    exact hne (by rw [← hu, List.append_nil])
  have hcaught := spliceInTurn_open h' hp' ho' hone hq (by simpa using hu.symm) hrest hs
    (List.forall_mem_map.mpr hno)
  rw [← hsplit] at hcaught
  exact fun heq => hcaught (Json.str.inj (Prod.mk.inj heq).1)

/-- Texts are put into a text that is no placeholder. What comes of it is the text with the
longest placeholder at each place replaced in one reading, if no value completes the placeholder
of a later name that was begun before it. Where such a name was begun, some values complete it. -/
theorem texts_are_put_in_at_once (h : Plain v texts)
    (hinside : ∀ entry ∈ texts, text ≠ placeholder entry.1) :
    (∃ out, v.apply (.str text) = (.str out, .ok ())) ∧
    (Seamless texts text → v.apply (.str text) = (.str (spliceOnce texts text), .ok ())) ∧
    (SeamFree texts text ↔ ∀ v' texts', Entries.keys texts' = Entries.keys texts →
      Plain v' texts' → v'.apply (.str text) = (.str (spliceOnce texts' text), .ok ())) := by
  obtain ⟨ps, -, -, hpatterns⟩ := exists_order h
  refine ⟨⟨_, apply_inTurn h hinside hpatterns⟩, apply_seamless h hinside,
    fun hfree v' texts' hkeys h' => ?_, fun hall => by_contra fun hseam => ?_⟩
  · have hinside' : ∀ entry ∈ texts', text ≠ placeholder entry.1 := by
      intro entry hentry
      have hname : entry.1 ∈ Entries.keys texts := hkeys ▸ List.mem_map_of_mem hentry
      obtain ⟨found, hfound, heq⟩ := List.mem_map.mp hname
      exact heq ▸ hinside found hfound
    exact apply_seamless h' hinside' (hfree.of_keys h h' hkeys).seamless
  · obtain ⟨v', texts', hkeys, h', hne⟩ := exists_captured h hinside hseam
    exact hne (hall v' texts' hkeys h')

def prefixedTexts : Entries String :=
  [("identifier", "space_ship"), ("name", "Foo"), ("namespace", "dev")]

def prefixedVariables : Variables :=
  .ofList [("namespace", .str "dev"), ("name", .str "Foo"), ("identifier", .str "space_ship")]

theorem plain_prefixedTexts : Plain prefixedVariables prefixedTexts where
  entries := rfl
  named := by decide +kernel
  names := by decide +kernel
  values := by decide +kernel

theorem prefixed_texts_are_put_in_at_once :
    Plain prefixedVariables prefixedTexts ∧
    (∀ entry ∈ prefixedTexts, "%namespace:%name%name" ≠ placeholder entry.1) ∧
    Seamless prefixedTexts "%namespace:%name%name" ∧
    prefixedVariables.apply (.str "%namespace:%name%name") = (.str "dev:FooFoo", .ok ()) := by
  have hinside : ∀ entry ∈ prefixedTexts, "%namespace:%name%name" ≠ placeholder entry.1 := by
    decide +kernel
  have hseamless : Seamless prefixedTexts "%namespace:%name%name" := by decide +kernel
  have honce : spliceOnce prefixedTexts "%namespace:%name%name" = "dev:FooFoo" := by decide +kernel
  refine ⟨plain_prefixedTexts, hinside, hseamless, ?_⟩
  rw [← honce]
  exact (texts_are_put_in_at_once plain_prefixedTexts hinside).2.1 hseamless

/-- The value of one variable completes the placeholder of a longer one. -/
theorem prefixed_text_is_captured :
    Plain prefixedVariables prefixedTexts ∧
    (∀ entry ∈ prefixedTexts, "%name%identifier" ≠ placeholder entry.1) ∧
    prefixedVariables.apply (.str "%name%identifier") = (.str "dev_ship", .ok ()) ∧
    spliceOnce prefixedTexts "%name%identifier" = "Foospace_ship" := by
  refine ⟨plain_prefixedTexts, by decide +kernel, rfl, by decide +kernel⟩

end EntityPack.Variables
