import EntityPack.Proofs.Words

/-!
# Texts without names

A name is proper if it begins and ends inside words and no state id stands in it. Once the
state ids are put for proper names, no name stands in the text any more: an occurrence that
covers no replaced place stood there before, and one that covers such a place would contain
a state id. So substitution settles a text in one pass.
-/
namespace EntityPack

namespace Text

variable {token l m text z u : List Char} {before before' : Option Char} {c : Char}

theorem stands_of_tokenAt (h : tokenAt token before text = true) :
    stands token before text = true := by
  cases text with
  | nil => exact h
  | cons c text => rw [stands, h, Bool.true_or]

theorem stands_congr (hb : before.any isWord = before'.any isWord) (text : List Char) :
    stands m before text = stands m before' text := by
  cases text with
  | nil => exact tokenAt_congr hb m []
  | cons c text => rw [stands, stands, tokenAt_congr hb]

theorem stands_inside (hm : Edged m) (hb : before.any isWord = true) (hl : Unbroken l)
    (h : stands m before (l ++ u) = true) : stands m (endOf before l) u = true := by
  induction l generalizing before with
  | nil => simpa using h
  | cons c l ih =>
    have hc : (some c).any isWord = true := hl c (by simp)
    rw [List.cons_append, stands, tokenAt_inside hm hb, Bool.false_or] at h
    rw [endOf_cons]
    exact ih hc (fun d hd => hl d (by simp [hd])) h

theorem stands_word (hm : Edged m) (hne : l ≠ []) (hl : Unbroken l)
    (h : stands m before (l ++ u) = true) :
    tokenAt m before (l ++ u) = true ∨ stands m (endOf before l) u = true := by
  obtain ⟨c, l, rfl⟩ := List.exists_cons_of_ne_nil hne
  have hc : (some c).any isWord = true := hl c (by simp)
  rw [List.cons_append, stands, Bool.or_eq_true] at h
  refine h.imp id fun h => ?_
  rw [endOf_cons]
  exact stands_inside hm hc (fun d hd => hl d (by simp [hd])) h

theorem stands_space (hm : Edged m) (hu : u.head?.any isWord = false)
    (before before' : Option Char) : stands m before u = stands m before' u := by
  cases u with
  | nil => exact (tokenAt_space hm hu).trans (tokenAt_space hm hu).symm
  | cons c u => rw [stands, stands, tokenAt_space hm hu, tokenAt_space hm hu]

/-- A token that is a word stands at the start of a text as its first word. -/
theorem stands_word_iff (hm : Edged m) (hmu : Unbroken m) (hne : l ≠ []) (hl : Unbroken l)
    (hu : u.head?.any isWord = false) (hb : before.any isWord = false) :
    stands m before (l ++ u) = true ↔ m = l ∨ stands m none u = true := by
  rw [stands_space hm hu none (endOf before l)]
  constructor
  · intro h
    refine (stands_word hm hne hl h).imp (fun hat => ?_) id
    exact ((tokenAt_word_iff hm hmu hl hu).mp hat).2
  · rintro (rfl | h)
    · exact stands_of_tokenAt ((tokenAt_word_iff hm hmu hmu hu).mpr ⟨hb, rfl⟩)
    · exact stands_append l u h

theorem stands_only (hm : Edged m) (hmu : Unbroken m) (hne : l ≠ []) (hl : Unbroken l)
    (hb : before.any isWord = false) : stands m before l = true ↔ m = l := by
  have h := stands_word_iff (u := []) hm hmu hne hl rfl hb
  have hnil : stands m none [] = false := tokenAt_space hm rfl
  simpa [hnil] using h

theorem stands_separated (hm : Edged m) (hc : isWord c = false) (before : Option Char) :
    stands m before (c :: u) = stands m (some c) u := by
  have hspace : tokenAt m before (c :: u) = false := tokenAt_space hm hc
  rw [stands, hspace, Bool.false_or]

/-- A token that begins where a word begins, and ends where a word ends, contains that word. -/
theorem stands_of_append (hl : Edged l) (hlu : Unbroken l) (hne : m ≠ [])
    (heq : m ++ z = l ++ u) (hz : z.head?.any isWord = false)
    (hu : u.head?.any isWord = false) (hb : before.any isWord = false) :
    stands l before m = true := by
  rcases List.append_eq_append_iff.mp heq with ⟨rest, rfl, rfl⟩ | ⟨rest, rfl, rfl⟩
  · -- The token would end inside the word, unless it is the word.
    rcases rest with _ | ⟨c, rest⟩
    · rw [List.append_nil] at hl ⊢
      exact stands_of_tokenAt ((tokenAt_iff hl).mpr ⟨hb, [], (List.append_nil m).symm, rfl⟩)
    · have hc : isWord c = true := hlu c (by simp)
      exact (Bool.false_ne_true (hz.symm.trans hc)).elim
  · refine stands_of_tokenAt ((tokenAt_iff hl).mpr ⟨hb, rest, rfl, ?_⟩)
    cases rest with
    | nil => rfl
    | cons c rest => exact hu

section Replacement

variable (ht : Edged token) (hl : Edged l) (hlu : Unbroken l)

include ht

theorem head?_replaceTokenFrom (h : text.head?.any isWord = false) :
    (replaceTokenFrom token l before 0 text).head?.any isWord = false := by
  cases text with
  | nil => rw [replaceTokenFrom_nil ht.ne_nil]; rfl
  | cons c text =>
    rw [replaceTokenFrom_other (tokenAt_space ht h)]
    exact h

include hl hlu

/-- The remaining part of a token that contains no replacement was there before. -/
theorem part_of_replaced (before : Option Char) (text : List Char) : ∀ m z,
    stands l before m = false → (endOf before m).any isWord = true →
    replaceTokenFrom token l before 0 text = m ++ z → z.head?.any isWord = false →
    ∃ rest, text = m ++ rest ∧ rest.head?.any isWord = false := by
  induction before, text using scan_induction ht.ne_nil with
  | nil before =>
    intro m z _ _ heq _
    rw [replaceTokenFrom_nil ht.ne_nil] at heq
    obtain ⟨rfl, -⟩ := List.append_eq_nil_iff.mp heq.symm
    exact ⟨[], rfl, rfl⟩
  | found before rest hfound ih =>
    intro m z hm hend heq hz
    obtain ⟨hb, rest', hrest, hr⟩ := (tokenAt_iff ht).mp hfound
    obtain rfl := List.append_cancel_left hrest
    rw [replaceTokenFrom_found ht.ne_nil hfound] at heq
    have hne : m ≠ [] := by
      rintro rfl
      rw [endOf_nil] at hend
      exact Bool.false_ne_true (hb.symm.trans hend)
    have hstands := stands_of_append hl hlu hne heq.symm hz (head?_replaceTokenFrom ht hr) hb
    exact (Bool.false_ne_true (hm.symm.trans hstands)).elim
  | other before c rest hother ih =>
    intro m z hm hend heq hz
    rw [replaceTokenFrom_other hother] at heq
    rcases m with _ | ⟨d, m⟩
    · obtain rfl : z = _ := heq.symm
      exact ⟨c :: rest, rfl, hz⟩
    · obtain ⟨rfl, htail⟩ := List.cons.inj heq
      rw [stands, Bool.or_eq_false_iff] at hm
      obtain ⟨rest', rfl, hr⟩ := ih m z hm.2 (by rwa [endOf_cons] at hend) htail hz
      exact ⟨rest', rfl, hr⟩

/-- What stands after a replacement stood there before, and it is not the token that was
replaced, if the replacement does not stand in it. -/
theorem stands_of_replaced (hm : Edged m) (hml : stands l none m = false)
    (before : Option Char) (text : List Char) :
    stands m before (replaceTokenFrom token l before 0 text) = true →
      stands m before text = true ∧ m ≠ token := by
  induction before, text using scan_induction ht.ne_nil with
  | nil before =>
    rw [replaceTokenFrom_nil ht.ne_nil]
    intro h
    exact (hm.ne_nil (List.prefix_nil.mp (beginning_of_tokenAt h))).elim
  | found before rest hfound ih =>
    obtain ⟨hb, rest', hrest, hr⟩ := (tokenAt_iff ht).mp hfound
    obtain rfl := List.append_cancel_left hrest
    rw [replaceTokenFrom_found ht.ne_nil hfound]
    intro h
    rcases stands_word hm hl.ne_nil hlu h with h | h
    · obtain ⟨-, z, heq, hz⟩ := (tokenAt_iff hm).mp h
      have hstands : stands l none m = true :=
        stands_of_append hl hlu hm.ne_nil heq.symm hz (head?_replaceTokenFrom ht hr) rfl
      exact (Bool.false_ne_true (hml.symm.trans hstands)).elim
    · have hwords : (endOf before l).any isWord = (endOf before token).any isWord := by
        rw [endOf_eq_getLast? hl.ne_nil, endOf_eq_getLast? ht.ne_nil, hl.last, ht.last]
      rw [stands_congr hwords] at h
      exact ⟨stands_append token rest (ih h).1, (ih h).2⟩
  | other before c rest hother ih =>
    rw [replaceTokenFrom_other hother]
    intro h
    rw [stands, Bool.or_eq_true] at h
    rcases h with h | h
    · obtain ⟨hb, z, heq, hz⟩ := (tokenAt_iff hm).mp h
      obtain ⟨d, m, rfl⟩ := List.exists_cons_of_ne_nil hm.ne_nil
      obtain ⟨rfl, htail⟩ := List.cons.inj heq
      rw [stands, Bool.or_eq_false_iff] at hml
      have hend : (endOf (some c) m).any isWord = true := by
        rw [← endOf_cons none, endOf_eq_getLast? hm.ne_nil, hm.last]
      obtain ⟨rest', rfl, hr⟩ := part_of_replaced ht hl hlu (some c) rest m z hml.2 hend
        htail hz
      have hstands : tokenAt (c :: m) before (c :: (m ++ rest')) = true :=
        (tokenAt_iff hm).mpr ⟨hb, rest', rfl, hr⟩
      refine ⟨stands_of_tokenAt hstands, ?_⟩
      rintro rfl
      exact Bool.false_ne_true (hother.symm.trans hstands)
    · obtain ⟨hrest, hne⟩ := ih h
      rw [stands, hrest, Bool.or_true]
      exact ⟨rfl, hne⟩

end Replacement

end Text

namespace Branch

/-- The name begins and ends inside words, and no state id stands in it. -/
structure ProperName (name : String) : Prop where
  edged : Text.Edged name.toList
  no_label : ∀ id : StateId, ¬ Text.StandsIn id.label name

def Nameless (branches : List ResolvedBranch) (text : String) : Prop :=
  ∀ b ∈ branches, ¬ Text.StandsIn b.name text

variable {branches : List ResolvedBranch} {text : String}

theorem properName_of_word {name : String} (h : Text.TokenWord name)
    (hr : isReserved name = false) : ProperName name := by
  refine ⟨h.edged, fun id hstands => ?_⟩
  have hlabel := id.label_tokenWord
  have hsame :=
    (Text.stands_only hlabel.edged hlabel.unbroken h.ne_nil h.unbroken rfl).mp hstands
  exact StateId.label_ne_of_unreserved hr id (String.toList_inj.mp hsame).symm

theorem properName_of_edged {name : String} (h : Text.Edged name.toList)
    (hs : ¬ ['s', 't', 'a', 't', 'e', '_'] <:+: name.toList) : ProperName name := by
  refine ⟨h, fun id hstands => hs ?_⟩
  have hlabel := Text.infix_of_stands hstands
  rw [StateId.label_toList] at hlabel
  exact (List.prefix_append _ _).isInfix.trans hlabel

theorem substituteText_eq_self {text : String} (h : Nameless branches text) :
    substituteText branches text = text := by
  induction branches with
  | nil => rfl
  | cons b branches ih =>
    rw [substituteText_cons, Text.replaceToken_eq_self (h b (by simp)),
      ih fun c hc => h c (by simp [hc])]

theorem standsIn_of_replaced {token name text : String} {id : StateId}
    (ht : ProperName token) (hn : ProperName name)
    (h : Text.StandsIn name (Text.replaceToken token id.label text)) :
    Text.StandsIn name text ∧ name ≠ token := by
  have hl := id.label_tokenWord
  have hno : Text.stands id.label.toList none name.toList = false := by
    simpa [Text.StandsIn] using hn.no_label id
  rw [Text.StandsIn, Text.replaceToken, String.toList_ofList] at h
  obtain ⟨hstands, hne⟩ :=
    Text.stands_of_replaced ht.edged hl.edged hl.unbroken hn.edged hno none _ h
  exact ⟨hstands, fun heq => hne (congrArg String.toList heq)⟩

/-- A proper name that does not stand in a text does not come into it. -/
theorem not_standsIn_substituteText (hp : ∀ b ∈ branches, ProperName b.name) {name : String}
    (hn : ProperName name) {text : String} (h : ¬ Text.StandsIn name text) :
    ¬ Text.StandsIn name (substituteText branches text) := by
  induction branches generalizing text with
  | nil => exact h
  | cons b branches ih =>
    refine ih (fun c hc => hp c (by simp [hc])) fun hstands => ?_
    exact h (standsIn_of_replaced (hp b (by simp)) hn hstands).1

theorem nameless_substituteText (hp : ∀ b ∈ branches, ProperName b.name) (text : String) :
    Nameless branches (substituteText branches text) := by
  induction branches generalizing text with
  | nil => simp [Nameless]
  | cons b branches ih =>
    have hb := hp b (by simp)
    have hrest : ∀ c ∈ branches, ProperName c.name := fun c hc => hp c (by simp [hc])
    intro c hc
    rcases List.mem_cons.mp hc with rfl | hc
    · refine not_standsIn_substituteText hrest hb fun hstands => ?_
      exact (standsIn_of_replaced hb hb hstands).2 rfl
    · exact ih hrest _ c hc

theorem substituteText_idem (hp : ∀ b ∈ branches, ProperName b.name) (text : String) :
    substituteText branches (substituteText branches text) = substituteText branches text :=
  substituteText_eq_self (nameless_substituteText hp text)

theorem label_remains (h : ∃ id : StateId, id.label.toList <:+: text.toList) :
    ∃ id : StateId, id.label.toList <:+: (substituteText branches text).toList := by
  induction branches generalizing text with
  | nil => exact h
  | cons b branches ih =>
    rw [substituteText_cons]
    refine ih ?_
    by_cases hb : Text.StandsIn b.name text
    · exact ⟨b.target, Text.infix_replaceToken hb _⟩
    · rwa [Text.replaceToken_eq_self hb]

/-- A text stays as it is if no name stands in it, or else gets the id of a state. -/
theorem nameless_or_label (branches : List ResolvedBranch) (text : String) :
    Nameless branches text ∨
      ∃ id : StateId, id.label.toList <:+: (substituteText branches text).toList := by
  induction branches with
  | nil => exact Or.inl fun b hb => by cases hb
  | cons b branches ih =>
    rw [substituteText_cons]
    by_cases hb : Text.StandsIn b.name text
    · exact Or.inr (label_remains ⟨b.target, Text.infix_replaceToken hb _⟩)
    · rw [Text.replaceToken_eq_self hb]
      refine ih.imp_left fun hrest c hc => ?_
      rcases List.mem_cons.mp hc with rfl | hc
      · exact hb
      · exact hrest c hc

theorem substituteText_eq_self_iff (h : ∀ id : StateId, ¬ id.label.toList <:+: text.toList) :
    substituteText branches text = text ↔ Nameless branches text := by
  refine ⟨fun hsame => ?_, substituteText_eq_self⟩
  refine (nameless_or_label branches text).resolve_right fun ⟨id, hlabel⟩ => ?_
  rw [hsame] at hlabel
  exact h id hlabel

end Branch
end EntityPack
