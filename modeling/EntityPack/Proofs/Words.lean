import EntityPack.Proofs.Occurrence
import EntityPack.Proofs.Registry
import Mathlib.Data.List.TakeWhile

/-!
# Words of a text

A token that begins and ends inside words stands only where no word goes on around it. One
that is a word as a whole is replaced word by word, so that the replacements of several
branches come to one map of the words.
-/
namespace EntityPack.Text

/-- The token begins and ends with a character of a word, and asks for a boundary there. -/
structure Edged (token : List Char) : Prop where
  first : token.head?.any isWord = true
  last : token.getLast?.any isWord = true
  asks_first : asksBoundary token.head? = true
  asks_last : asksBoundary token.getLast? = true

def Unbroken (w : List Char) : Prop := ∀ c ∈ w, isWord c = true

variable {token replacement text rest w : List Char} {before : Option Char} {c : Char}
  {f g : List Char → List Char}

theorem Edged.ne_nil (h : Edged token) : token ≠ [] := by
  rintro rfl
  cases h.first

theorem Unbroken.any_head? (hw : Unbroken w) (hne : w ≠ []) : w.head?.any isWord = true := by
  obtain ⟨c, w, rfl⟩ := List.exists_cons_of_ne_nil hne
  exact hw c (by simp)

theorem takeWhile_word (hw : Unbroken w) (hr : rest.head?.any isWord = false) :
    (w ++ rest).takeWhile isWord = w := by
  rw [List.takeWhile_append_of_pos hw]
  cases rest with
  | nil => simp
  | cons c rest =>
    have hc : isWord c = false := hr
    simp [hc]

/-- An edged token stands where no word goes on in front of it or behind it. -/
theorem tokenAt_iff (h : Edged token) : tokenAt token before text = true ↔
    before.any isWord = false ∧
      ∃ rest, text = token ++ rest ∧ rest.head?.any isWord = false := by
  have hprefix : token.isPrefixOf text = true ↔ ∃ rest, text = token ++ rest := by
    rw [List.isPrefixOf_iff_prefix]
    exact ⟨fun ⟨rest, hr⟩ => ⟨rest, hr.symm⟩, fun ⟨rest, hr⟩ => ⟨rest, hr.symm⟩⟩
  have hend : (token.getLast?.or before).any isWord = true := by
    rw [← endOf, endOf_eq_getLast? h.ne_nil, h.last]
  simp only [tokenAt, Bool.and_eq_true, hprefix, h.asks_first, h.asks_last, Bool.not_true,
    Bool.false_or, isBoundary, hend]
  constructor
  · rintro ⟨⟨⟨rest, rfl⟩, hstart⟩, hstop⟩
    rw [List.head?_append_of_ne_nil _ h.ne_nil, h.first] at hstart
    rw [List.drop_left] at hstop
    exact ⟨by simpa using hstart, rest, rfl, by simpa using hstop⟩
  · rintro ⟨hb, rest, rfl, hr⟩
    rw [List.head?_append_of_ne_nil _ h.ne_nil, h.first, List.drop_left, hb, hr]
    exact ⟨⟨⟨rest, rfl⟩, rfl⟩, rfl⟩

theorem tokenAt_space (h : Edged token) (ht : text.head?.any isWord = false) :
    tokenAt token before text = false := by
  rw [← Bool.not_eq_true, tokenAt_iff h]
  rintro ⟨-, rest, rfl, -⟩
  rw [List.head?_append_of_ne_nil _ h.ne_nil, h.first] at ht
  cases ht

theorem tokenAt_inside (h : Edged token) (hb : before.any isWord = true) :
    tokenAt token before text = false := by
  rw [← Bool.not_eq_true, tokenAt_iff h, hb]
  simp

theorem tokenAt_word_iff (h : Edged token) (ht : Unbroken token) (hw : Unbroken w)
    (hr : rest.head?.any isWord = false) : tokenAt token before (w ++ rest) = true ↔
      before.any isWord = false ∧ token = w := by
  rw [tokenAt_iff h]
  refine and_congr_right fun _ => ⟨fun ⟨rest', heq, hr'⟩ => ?_, ?_⟩
  · have hsame := congrArg (List.takeWhile isWord) heq
    rw [takeWhile_word hw hr, takeWhile_word ht hr'] at hsame
    exact hsame.symm
  · rintro rfl
    exact ⟨rest, rfl, hr⟩

theorem word_induction {motive : List Char → Prop} (nil : motive [])
    (space : ∀ c rest, isWord c = false → motive rest → motive (c :: rest))
    (word : ∀ w rest, w ≠ [] → Unbroken w → rest.head?.any isWord = false → motive rest →
      motive (w ++ rest)) (text : List Char) : motive text := by
  induction hn : text.length using Nat.strongRecOn generalizing text with
  | ind n ih =>
    cases text with
    | nil => exact nil
    | cons c text =>
      rw [List.length_cons] at hn
      by_cases hc : isWord c = true
      · rw [← List.takeWhile_append_dropWhile (p := isWord) (l := c :: text)]
        have hlt : ((c :: text).dropWhile isWord).length < n := by
          rw [List.dropWhile_cons_of_pos hc]
          have hle := (List.dropWhile_sublist isWord (l := text)).length_le
          omega
        refine word _ _ ?_ ?_ ?_ (ih _ hlt _ rfl)
        · rw [List.takeWhile_cons_of_pos hc]
          exact List.cons_ne_nil _ _
        · exact fun d hd => List.mem_takeWhile_imp hd
        · have hhead := List.head?_dropWhile_not isWord (c :: text)
          cases hd : ((c :: text).dropWhile isWord).head? with
          | none => rfl
          | some d => simpa [hd] using hhead
      · exact space c text (by simpa using hc) (ih _ (by omega) _ rfl)

/-- Applies `f` to the words of a text that goes on with `word`. -/
def mapWordsFrom (f : List Char → List Char) : List Char → List Char → List Char
  | word, [] => if word.isEmpty then [] else f word
  | word, c :: rest =>
    if isWord c then mapWordsFrom f (word ++ [c]) rest
    else (if word.isEmpty then [] else f word) ++ c :: mapWordsFrom f [] rest

theorem mapWordsFrom_space (hc : isWord c = false) (rest : List Char) :
    mapWordsFrom f [] (c :: rest) = c :: mapWordsFrom f [] rest := by
  simp [mapWordsFrom, hc]

theorem mapWordsFrom_word (hne : w ≠ []) (hw : Unbroken w)
    (hr : rest.head?.any isWord = false) :
    mapWordsFrom f [] (w ++ rest) = f w ++ mapWordsFrom f [] rest := by
  have hread : ∀ x y : List Char, Unbroken y →
      mapWordsFrom f x (y ++ rest) = mapWordsFrom f (x ++ y) rest := by
    intro x y hy
    induction y generalizing x with
    | nil => simp
    | cons c y ih =>
      have hc : isWord c = true := hy c (by simp)
      rw [List.cons_append, mapWordsFrom, if_pos hc, ih _ fun d hd => hy d (by simp [hd])]
      simp
  rw [hread [] w hw, List.nil_append]
  cases rest with
  | nil => simp [mapWordsFrom, hne]
  | cons c rest =>
    have hc : isWord c = false := hr
    simp [mapWordsFrom, hc, hne]

theorem mapWordsFrom_id (text : List Char) : mapWordsFrom (fun w => w) [] text = text := by
  induction text using word_induction with
  | nil => rfl
  | space c rest hc ih => rw [mapWordsFrom_space hc, ih]
  | word w rest hne hw hr ih => rw [mapWordsFrom_word hne hw hr, ih]

theorem head?_mapWordsFrom (hr : rest.head?.any isWord = false) :
    (mapWordsFrom g [] rest).head?.any isWord = false := by
  cases rest with
  | nil => rfl
  | cons c rest =>
    rw [mapWordsFrom_space hr]
    exact hr

/-- Words may be mapped one map after the other if words become words. -/
theorem mapWordsFrom_comp (hg : ∀ w, w ≠ [] → Unbroken w → g w ≠ [] ∧ Unbroken (g w))
    (text : List Char) :
    mapWordsFrom f [] (mapWordsFrom g [] text) = mapWordsFrom (f ∘ g) [] text := by
  induction text using word_induction with
  | nil => rfl
  | space c rest hc ih => simp only [mapWordsFrom_space hc, ih]
  | word w rest hne hw hr ih =>
    obtain ⟨hgne, hgw⟩ := hg w hne hw
    rw [mapWordsFrom_word hne hw hr, mapWordsFrom_word hgne hgw (head?_mapWordsFrom hr), ih,
      mapWordsFrom_word hne hw hr]
    rfl

theorem replaceTokenFrom_inside (h : Edged token) (hb : before.any isWord = true)
    (hw : Unbroken w) (rest : List Char) :
    replaceTokenFrom token replacement before 0 (w ++ rest) =
      w ++ replaceTokenFrom token replacement (endOf before w) 0 rest := by
  induction w generalizing before with
  | nil => simp
  | cons c w ih =>
    have hc : (some c).any isWord = true := hw c (by simp)
    rw [List.cons_append, replaceTokenFrom_other (tokenAt_inside h hb),
      ih hc fun d hd => hw d (by simp [hd]), endOf_cons]
    rfl

/-- A word is replaced wherever it is a word of the text. The reading starts between words. -/
theorem replaceTokenFrom_eq_mapWordsFrom (h : Edged token) (hu : Unbroken token)
    (text : List Char) : ∀ before : Option Char,
      before.any isWord = false ∨ text.head?.any isWord = false →
      replaceTokenFrom token replacement before 0 text =
        mapWordsFrom (fun w => if w = token then replacement else w) [] text := by
  induction text using word_induction with
  | nil => exact fun before _ => replaceTokenFrom_nil h.ne_nil before
  | space c rest hc ih =>
    intro before _
    rw [replaceTokenFrom_other (tokenAt_space h hc), mapWordsFrom_space hc, ih (some c) (Or.inl hc)]
  | word w rest hne hw hr ih =>
    intro before hbefore
    have hhead : (w ++ rest).head?.any isWord = true := by
      rw [List.head?_append_of_ne_nil _ hne, hw.any_head? hne]
    have hb : before.any isWord = false :=
      hbefore.resolve_right fun hf => Bool.false_ne_true (hf.symm.trans hhead)
    rw [mapWordsFrom_word hne hw hr]
    by_cases heq : w = token
    · subst heq
      rw [if_pos rfl, ← ih _ (Or.inr hr)]
      exact replaceTokenFrom_found hne ((tokenAt_word_iff h hu hw hr).mpr ⟨hb, rfl⟩)
    · -- The token is not the word at the start, and inside that word it cannot stand.
      have hother : tokenAt token before (w ++ rest) = false := by
        rw [← Bool.not_eq_true, tokenAt_word_iff h hu hw hr]
        exact fun hat => heq hat.2.symm
      obtain ⟨c, w, rfl⟩ := List.exists_cons_of_ne_nil hne
      have hc : (some c).any isWord = true := hw c (by simp)
      rw [List.cons_append] at hother ⊢
      rw [if_neg heq, replaceTokenFrom_other hother,
        replaceTokenFrom_inside h hc fun d hd => hw d (by simp [hd]), ih _ (Or.inr hr)]
      rfl

structure Word (w : String) : Prop where
  ne_nil : w.toList ≠ []
  unbroken : Unbroken w.toList

/-- The text is one word, and as a token it asks for boundaries on both sides. -/
structure TokenWord (w : String) : Prop extends Word w where
  edged : Edged w.toList

def mapWords (f : String → String) (text : String) : String :=
  String.ofList (mapWordsFrom (fun w => (f (String.ofList w)).toList) [] text.toList)

theorem mapWords_id (text : String) : mapWords (fun w => w) text = text := by
  simp only [mapWords, String.toList_ofList, mapWordsFrom_id, String.ofList_toList]

theorem mapWords_mapWords {f g : String → String} (hg : ∀ w, Word w → Word (g w))
    (text : String) : mapWords f (mapWords g text) = mapWords (f ∘ g) text := by
  have hword : ∀ w, w ≠ [] → Unbroken w → (g (String.ofList w)).toList ≠ [] ∧
      Unbroken (g (String.ofList w)).toList := by
    intro w hne hw
    obtain ⟨hgne, hgw⟩ := hg (String.ofList w) ⟨by simpa using hne, by simpa using hw⟩
    exact ⟨hgne, hgw⟩
  simp only [mapWords, String.toList_ofList]
  rw [mapWordsFrom_comp hword]
  simp only [Function.comp_def, String.ofList_toList]

theorem replaceToken_eq_mapWords {token : String} (h : TokenWord token)
    (replacement text : String) : replaceToken token replacement text =
      mapWords (fun w => if w = token then replacement else w) text := by
  rw [replaceToken, mapWords,
    replaceTokenFrom_eq_mapWordsFrom h.edged h.unbroken _ none (Or.inl rfl)]
  congr 2
  funext w
  have hiff : String.ofList w = token ↔ w = token.toList := by
    constructor
    · rintro rfl
      rw [String.toList_ofList]
    · rintro rfl
      rw [String.ofList_toList]
  by_cases hw : w = token.toList
  · rw [if_pos hw, if_pos (hiff.mpr hw)]
  · rw [if_neg hw, if_neg (hiff.not.mpr hw), String.toList_ofList]

theorem tokenWord_of_ascii {w : String} (hne : w ≠ "")
    (hw : ∀ c ∈ w.toList, c.isAlphanum = true ∨ c = '_') : TokenWord w := by
  have hascii : ∀ c ∈ w.toList, c.toNat < 128 ∧ (c.isAlphanum || c == '_') = true := by
    intro c hc
    have hor := hw c hc
    refine ⟨?_, by simpa using hor⟩
    rcases hor with h | rfl
    · unfold Char.isAlphanum Char.isAlpha Char.isUpper Char.isLower Char.isDigit at h
      simp [UInt32.le_iff_toNat_le] at h
      omega
    · decide
  have hword : ∀ c ∈ w.toList, isWord c = true := by
    intro c hc
    obtain ⟨hlt, h⟩ := hascii c hc
    rw [isWord, if_pos hlt, h]
  have hasks : ∀ c ∈ w.toList, asksBoundary (some c) = true := by
    intro c hc
    obtain ⟨hlt, h⟩ := hascii c hc
    rw [asksBoundary, Option.any_some, isAlphanumeric, if_pos hlt, h]
  have hnil : w.toList ≠ [] := by simpa using hne
  have hhead := List.head?_eq_some_head hnil
  have hlast := List.getLast?_eq_some_getLast hnil
  exact ⟨⟨hnil, hword⟩, ⟨by rw [hhead]; exact hword _ (List.head_mem hnil),
    by rw [hlast]; exact hword _ (List.getLast_mem hnil),
    by rw [hhead]; exact hasks _ (List.head_mem hnil),
    by rw [hlast]; exact hasks _ (List.getLast_mem hnil)⟩⟩

end EntityPack.Text

namespace EntityPack

theorem StateId.label_ascii (id : StateId) :
    ∀ c ∈ id.label.toList, c.isAlphanum = true ∨ c = '_' := by
  rw [label_toList, List.forall_mem_append]
  refine ⟨by simp, fun c hc => ?_⟩
  have hd := Nat.isDigit_of_mem_toDigits (by decide) (by decide) hc
  exact Or.inl (by simp [Char.isAlphanum, hd])

theorem StateId.label_tokenWord (id : StateId) : Text.TokenWord id.label := by
  refine Text.tokenWord_of_ascii ?_ id.label_ascii
  intro h
  have hl := congrArg String.toList h
  simp [label_toList] at hl

namespace Branch

variable {branches : List ResolvedBranch}

theorem substituteId_word {w : String} (hw : Text.Word w) :
    Text.Word (substituteId branches w) := by
  induction branches with
  | nil => exact hw
  | cons b branches ih =>
    rw [substituteId_cons]
    split
    · exact (StateId.label_tokenWord b.target).toWord
    · exact ih

/-- If all names are words, the branches together map each word of a text as if it were an
id. -/
theorem substituteText_eq_mapWords (hw : ∀ b ∈ branches, Text.TokenWord b.name)
    (hn : ∀ b ∈ branches, ∀ id : StateId, b.name ≠ id.label) (text : String) :
    substituteText branches text = Text.mapWords (substituteId branches) text := by
  induction branches generalizing text with
  | nil => exact (Text.mapWords_id text).symm
  | cons b branches ih =>
    have hfirst : ∀ w, Text.Word w → Text.Word (if w = b.name then b.target.label else w) := by
      intro w hword
      split
      · exact (StateId.label_tokenWord b.target).toWord
      · exact hword
    have hlabel : substituteId branches b.target.label = b.target.label :=
      substituteId_unnamed fun c hc => hn c (by simp [hc]) b.target
    rw [substituteText_cons, ih (fun c hc => hw c (by simp [hc])) fun c hc => hn c (by simp [hc]),
      Text.replaceToken_eq_mapWords (hw b (by simp)), Text.mapWords_mapWords hfirst]
    congr 1
    funext w
    rw [Function.comp_apply, substituteId_cons]
    by_cases hname : w = b.name
    · rw [if_pos hname, if_pos hname.symm, hlabel]
    · rw [if_neg hname, if_neg (Ne.symm hname)]

end Branch
end EntityPack
