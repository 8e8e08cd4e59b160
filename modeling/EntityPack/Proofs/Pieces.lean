import EntityPack.Proofs.Settling
import Mathlib.Data.List.Forall2
import Mathlib.Data.List.SplitBy

/-!
# Names that are identifiers

A text is cut into its words and the characters between them. If all names are identifiers,
substitution replaces the pieces that are names, all at once. So the order of the branches
does not matter, longer words stay, and a second substitution finds nothing to do.
-/
namespace EntityPack

namespace Text

/-- The longest runs of characters of words, and every other character on its own. -/
def pieces (text : String) : List String :=
  (text.toList.splitBy fun c d => isWord c && isWord d).map String.ofList

variable {rest w : List Char} {c : Char} {f : List Char → List Char}

theorem join_pieces (text : String) : String.join (pieces text) = text := by
  rw [← String.toList_inj, String.toList_join, pieces, List.flatMap_map]
  simp only [String.toList_ofList, List.flatMap_id', List.flatten_splitBy]

theorem splitBy_space (hc : isWord c = false) (rest : List Char) :
    (c :: rest).splitBy (fun c d => isWord c && isWord d) =
      [c] :: rest.splitBy fun c d => isWord c && isWord d := by
  have hcut := List.splitBy_append (r := fun c d => isWord c && isWord d) (l := [c]) (m := rest)
    (by simp [hc])
  rw [List.splitBy_of_isChain (List.cons_ne_nil c []) (List.isChain_singleton c)] at hcut
  exact hcut

theorem splitBy_word (hne : w ≠ []) (hw : Unbroken w) (hr : rest.head?.any isWord = false) :
    (w ++ rest).splitBy (fun c d => isWord c && isWord d) =
      w :: rest.splitBy fun c d => isWord c && isWord d := by
  have hchain : w.IsChain fun c d => (isWord c && isWord d) = true := by
    refine List.Pairwise.isChain (List.pairwise_of_forall_mem_list fun c hc d hd => ?_)
    rw [hw c hc, hw d hd, Bool.and_self]
  rw [List.splitBy_append, List.splitBy_of_isChain hne hchain, List.singleton_append]
  intro c _ d hd
  have hspace : isWord d = false := by
    rw [hd] at hr
    exact hr
  rw [hspace, Bool.and_false]

theorem splitBy_mapWordsFrom (hf : ∀ w, w ≠ [] → Unbroken w → f w ≠ [] ∧ Unbroken (f w))
    (hs : ∀ c, isWord c = false → f [c] = [c]) (text : List Char) :
    (mapWordsFrom f [] text).splitBy (fun c d => isWord c && isWord d) =
      (text.splitBy fun c d => isWord c && isWord d).map f := by
  induction text using word_induction with
  | nil => rfl
  | space c rest hc ih =>
    rw [mapWordsFrom_space hc, splitBy_space hc, splitBy_space hc, ih, List.map_cons, hs c hc]
  | word w rest hne hw hr ih =>
    obtain ⟨hfne, hfw⟩ := hf w hne hw
    rw [mapWordsFrom_word hne hw hr, splitBy_word hfne hfw (head?_mapWordsFrom hr),
      splitBy_word hne hw hr, ih, List.map_cons]

theorem pieces_mapWords {f : String → String} (hf : ∀ w, Word w → Word (f w))
    (hs : ∀ c, isWord c = false → f (String.ofList [c]) = String.ofList [c]) (text : String) :
    pieces (mapWords f text) = (pieces text).map f := by
  have hword : ∀ w, w ≠ [] → Unbroken w → (f (String.ofList w)).toList ≠ [] ∧
      Unbroken (f (String.ofList w)).toList := by
    intro w hne hw
    obtain ⟨hfne, hfw⟩ := hf (String.ofList w) ⟨by simpa using hne, by simpa using hw⟩
    exact ⟨hfne, hfw⟩
  have hspace : ∀ c, isWord c = false → (f (String.ofList [c])).toList = [c] := by
    intro c hc
    rw [hs c hc, String.toList_ofList]
  rw [pieces, mapWords, String.toList_ofList, splitBy_mapWordsFrom hword hspace, pieces,
    List.map_map, List.map_map]
  simp only [Function.comp_def, String.ofList_toList]

end Text

namespace Branch

inductive Replaced (branches : List ResolvedBranch) : String → String → Prop where
  | named {b : ResolvedBranch} (hb : b ∈ branches) : Replaced branches b.name b.target.label
  | other {w : String} (hw : ∀ b ∈ branches, b.name ≠ w) : Replaced branches w w

structure Identifier (name : String) : Prop where
  ne_empty : name ≠ ""
  ascii : ∀ c ∈ name.toList, c.isAlphanum = true ∨ c = '_'
  unreserved : isReserved name = false

variable {branches other : List ResolvedBranch} {name w x : String}

theorem Identifier.tokenWord (h : Identifier name) : Text.TokenWord name :=
  Text.tokenWord_of_ascii h.ne_empty h.ascii

/-- With distinct names there is one replacement for a piece. -/
theorem replaced_iff (hd : (branches.map ResolvedBranch.name).Nodup) :
    Replaced branches w x ↔ x = substituteId branches w := by
  constructor
  · rintro (hb | hw)
    · exact (substituteId_of_mem hd hb).symm
    · exact (substituteId_unnamed hw).symm
  · rintro rfl
    by_cases hw : ∃ b ∈ branches, b.name = w
    · obtain ⟨b, hb, rfl⟩ := hw
      rw [substituteId_of_mem hd hb]
      exact .named hb
    · have hother : ∀ b ∈ branches, b.name ≠ w := fun b hb hname => hw ⟨b, hb, hname⟩
      rw [substituteId_unnamed hother]
      exact .other hother

theorem Replaced.perm (h : Replaced other w x) (hp : other.Perm branches) :
    Replaced branches w x := by
  rcases h with hb | hw
  · exact .named (hp.subset hb)
  · exact .other fun b hb => hw b (hp.symm.subset hb)

theorem substituteId_perm (hd : (branches.map ResolvedBranch.name).Nodup)
    (hp : other.Perm branches) (w : String) : substituteId other w = substituteId branches w := by
  have hd' : (other.map ResolvedBranch.name).Nodup := (hp.map _).nodup_iff.mpr hd
  have hw : Replaced other w (substituteId other w) := (replaced_iff hd').mpr rfl
  exact (replaced_iff hd).mp (hw.perm hp)

theorem Identifier.ne_space (h : Identifier name) {c : Char} (hc : Text.isWord c = false) :
    name ≠ String.ofList [c] := by
  rintro rfl
  have hword := h.tokenWord.unbroken c (by simp)
  exact Bool.false_ne_true (hc.symm.trans hword)

theorem substituteText_identifiers (hi : ∀ b ∈ branches, Identifier b.name) (text : String) :
    substituteText branches text = Text.mapWords (substituteId branches) text :=
  substituteText_eq_mapWords (fun b hb => (hi b hb).tokenWord)
    (fun b hb => StateId.label_ne_of_unreserved (hi b hb).unreserved) text

theorem pieces_substituteText (hi : ∀ b ∈ branches, Identifier b.name) (text : String) :
    Text.pieces (substituteText branches text) =
      (Text.pieces text).map (substituteId branches) := by
  rw [substituteText_identifiers hi]
  refine Text.pieces_mapWords (fun w => substituteId_word) (fun c hc => ?_) text
  exact substituteId_unnamed fun b hb => (hi b hb).ne_space hc

/-- If all names are identifiers, the pieces of a text that are names are replaced, all at
once. So the branches may come in any order, and a second time nothing is replaced. -/
theorem identifiers_are_replaced_at_once (hd : (branches.map ResolvedBranch.name).Nodup)
    (hi : ∀ b ∈ branches, Identifier b.name) (text : String) :
    ∃ replaced, List.Forall₂ (Replaced branches) (Text.pieces text) replaced ∧
      substituteText branches text = String.join replaced ∧
      Text.pieces (substituteText branches text) = replaced ∧
      (∀ other : List ResolvedBranch, other.Perm branches →
        substituteText other text = substituteText branches text) ∧
      substituteText branches (substituteText branches text) = substituteText branches text := by
  have hpieces := pieces_substituteText hi text
  refine ⟨(Text.pieces text).map (substituteId branches), ?_, ?_, hpieces, fun other hp => ?_, ?_⟩
  · rw [List.forall₂_map_right_iff, List.forall₂_same]
    exact fun w _ => (replaced_iff hd).mpr rfl
  · rw [← hpieces, Text.join_pieces]
  · have hi' : ∀ b ∈ other, Identifier b.name := fun b hb => hi b (hp.subset hb)
    rw [substituteText_identifiers hi', substituteText_identifiers hi]
    congr 1
    funext w
    exact substituteId_perm hd hp w
  · refine substituteText_idem (fun b hb => ?_) text
    exact properName_of_word (hi b hb).tokenWord (hi b hb).unreserved

/-- A name that another one contains, and a number. -/
def overlappingNames : List ResolvedBranch :=
  [⟨"hurt", ⟨3⟩, [⟨0⟩]⟩, ⟨"hurt_2", ⟨1⟩, []⟩, ⟨"1", ⟨2⟩, [⟨3⟩]⟩]

theorem overlapping_names_are_replaced_at_once : (overlappingNames.map ResolvedBranch.name).Nodup ∧
    (∀ b ∈ overlappingNames, Identifier b.name) ∧
    ∃ replaced, List.Forall₂ (Replaced overlappingNames)
        (Text.pieces "query.is_hurt>1 && hurt!=hurt_2") replaced ∧
      substituteText overlappingNames "query.is_hurt>1 && hurt!=hurt_2" =
        "query.is_hurt>state_2 && state_3!=state_1" ∧
      substituteText overlappingNames.reverse "query.is_hurt>1 && hurt!=hurt_2" =
        "query.is_hurt>state_2 && state_3!=state_1" := by
  have hd : (overlappingNames.map ResolvedBranch.name).Nodup := by decide
  have hi : ∀ b ∈ overlappingNames, Identifier b.name := by
    intro b hb
    simp only [overlappingNames, List.mem_cons, List.not_mem_nil, or_false] at hb
    rcases hb with rfl | rfl | rfl <;> exact ⟨by decide, by simp, by decide⟩
  have hresult : substituteText overlappingNames "query.is_hurt>1 && hurt!=hurt_2" =
      "query.is_hurt>state_2 && state_3!=state_1" := by decide +kernel
  obtain ⟨replaced, hpieces, -, -, hperm, -⟩ :=
    identifiers_are_replaced_at_once hd hi "query.is_hurt>1 && hurt!=hurt_2"
  exact ⟨hd, hi, replaced, hpieces, hresult,
    (hperm overlappingNames.reverse overlappingNames.reverse_perm).trans hresult⟩

end Branch
end EntityPack
