import EntityPack.Proofs.History
import EntityPack.Proofs.Settling

/-!
# Words between spaces

If no name contains a space, substitution treats each word between spaces on its own. A word
that is a branch name gets the id of that branch if it stands in itself and no name that was
mentioned before it stands in it.
-/
namespace EntityPack

namespace Text

/-- What stands between the spaces of a text. -/
def spacedWords (text : String) : List String := (text.toList.splitOn ' ').map String.ofList

variable {token replacement text x rest l : List Char} {before : Option Char} {c : Char}

theorem tokenAt_before_space (hs : ' ' ∉ token) (x rest : List Char) :
    tokenAt token before (x ++ ' ' :: rest) = tokenAt token before x := by
  have hspace : isWord ' ' = false := by decide
  have hhead : ∀ y : List Char, (y ++ ' ' :: rest).head?.any isWord = y.head?.any isWord := by
    intro y
    cases y with
    | nil => exact hspace
    | cons c y => rfl
  have hbegins : token.isPrefixOf (x ++ ' ' :: rest) = token.isPrefixOf x := by
    rw [Bool.eq_iff_iff, List.isPrefixOf_iff_prefix, List.isPrefixOf_iff_prefix,
      prefix_before hs]
  by_cases hx : token <+: x
  · obtain ⟨y, rfl⟩ := hx
    simp only [tokenAt, isBoundary, hbegins, hhead]
    rw [List.append_assoc, List.drop_left, List.drop_left, hhead]
  · have hshort : token.isPrefixOf x = false := by
      rw [← Bool.not_eq_true, List.isPrefixOf_iff_prefix]
      exact hx
    simp only [tokenAt, hbegins, hshort, Bool.false_and]

/-- Replacement starts anew behind a space. -/
theorem replaceTokenFrom_spaced (hs : ' ' ∉ token) (before : Option Char) (x rest : List Char) :
    replaceTokenFrom token replacement before 0 (x ++ ' ' :: rest) =
      replaceTokenFrom token replacement before 0 x ++
        ' ' :: replaceTokenFrom token replacement none 0 rest := by
  have hspace : (some ' ').any isWord = (none : Option Char).any isWord := by decide
  by_cases hne : token = []
  · -- The empty token stands everywhere, so that there is no scan from one place to the next.
    subst hne
    induction x generalizing before with
    | nil =>
      rw [List.nil_append, replaceTokenFrom_congr hspace.symm]
      rfl
    | cons c x ih =>
      have hstep : ∀ y, replaceTokenFrom [] replacement before 0 (c :: y) =
          replacement ++ c :: replaceTokenFrom [] replacement (some c) 0 y := fun y => rfl
      rw [List.cons_append, hstep, hstep, ih, List.append_assoc, List.cons_append]
  · induction before, x using scan_induction hne with
    | nil before =>
      have hother : tokenAt token before ([] ++ ' ' :: rest) = false := by
        rw [tokenAt_before_space hs, ← Bool.not_eq_true]
        exact fun hat => hne (List.prefix_nil.mp (beginning_of_tokenAt hat))
      rw [List.nil_append] at hother ⊢
      rw [replaceTokenFrom_other hother, replaceTokenFrom_nil hne,
        replaceTokenFrom_congr hspace, List.nil_append]
    | found before x hfound ih =>
      rw [replaceTokenFrom_found hne hfound]
      rw [← tokenAt_before_space hs, List.append_assoc] at hfound
      rw [List.append_assoc, replaceTokenFrom_found hne hfound, ih, List.append_assoc]
    | other before c x hother ih =>
      have hspaced := (tokenAt_before_space hs (c :: x) rest).trans hother
      rw [List.cons_append] at hspaced
      rw [replaceTokenFrom_other hother, List.cons_append, replaceTokenFrom_other hspaced, ih,
        List.cons_append]

theorem mem_replaceTokenFrom {skip : Nat}
    (h : c ∈ replaceTokenFrom token replacement before skip text) :
    c ∈ replacement ∨ c ∈ text := by
  fun_induction replaceTokenFrom token replacement before skip text with
  | case1 before skip d rest ih => exact (ih h).imp_right (List.mem_cons_of_mem d)
  | case2 before d rest hat hl ih =>
    rcases List.mem_append.mp h with h | h
    · exact Or.inl h
    · rcases List.mem_cons.mp h with rfl | h
      · exact Or.inr List.mem_cons_self
      · exact (ih h).imp_right (List.mem_cons_of_mem d)
  | case3 before d rest hat length hl ih =>
    rcases List.mem_append.mp h with h | h
    · exact Or.inl h
    · exact (ih h).imp_right (List.mem_cons_of_mem d)
  | case4 before d rest hat ih =>
    rcases List.mem_cons.mp h with rfl | h
    · exact Or.inr List.mem_cons_self
    · exact (ih h).imp_right (List.mem_cons_of_mem d)
  | case5 => exact Or.inl h
  | case6 => cases h

theorem splitOn_replaceTokenFrom (hs : ' ' ∉ token) (hr : ' ' ∉ replacement) (text : List Char) :
    (replaceTokenFrom token replacement none 0 text).splitOn ' ' =
      (text.splitOn ' ').map (replaceTokenFrom token replacement none 0) := by
  have hfree : ∀ x : List Char, ' ' ∉ x → ' ' ∉ replaceTokenFrom token replacement none 0 x :=
    fun x hx hmem => (mem_replaceTokenFrom hmem).elim hr hx
  induction text using separated_induction ' ' with
  | last x hx =>
    rw [List.splitOn_eq_singleton hx, List.splitOn_eq_singleton (hfree x hx)]
    rfl
  | more x rest hx ih =>
    rw [replaceTokenFrom_spaced hs, List.splitOn_append_cons_self_of_not_mem (hfree x hx),
      List.splitOn_append_cons_self_of_not_mem hx, ih, List.map_cons]

theorem spacedWords_replaceToken {token replacement : String} (hs : ' ' ∉ token.toList)
    (hr : ' ' ∉ replacement.toList) (text : String) :
    spacedWords (replaceToken token replacement text) =
      (spacedWords text).map (replaceToken token replacement) := by
  rw [spacedWords, replaceToken, String.toList_ofList, splitOn_replaceTokenFrom hs hr,
    spacedWords, List.map_map, List.map_map]
  simp only [Function.comp_def, replaceToken, String.toList_ofList]

theorem standsIn_self {token : String} (h : Edged token.toList) : StandsIn token token :=
  stands_of_tokenAt ((tokenAt_iff h).mpr ⟨rfl, [], (List.append_nil _).symm, rfl⟩)

/-- A text that stands in itself is replaced as a whole. -/
theorem replaceToken_self {token : String} (h : StandsIn token token) (replacement : String) :
    replaceToken token replacement token = replacement := by
  rw [← String.toList_inj, replaceToken, String.toList_ofList]
  rw [StandsIn] at h
  by_cases hne : token.toList = []
  · rw [hne]
    rfl
  · have hat : tokenAt token.toList none (token.toList ++ []) = true := by
      rw [List.append_nil]
      obtain ⟨c, rest, htoken⟩ := List.exists_cons_of_ne_nil hne
      rw [htoken] at h ⊢
      rw [stands, Bool.or_eq_true] at h
      refine h.resolve_right fun hrest => ?_
      have hle := (infix_of_stands hrest).length_le
      rw [List.length_cons] at hle
      omega
    have hfound : replaceTokenFrom token.toList replacement.toList none 0 (token.toList ++ []) =
        _ := replaceTokenFrom_found hne hat
    rw [List.append_nil] at hfound
    rw [hfound, replaceTokenFrom_nil hne, List.append_nil]

/-- Where an edged token is replaced and one word comes out, the text was that token. -/
theorem eq_of_replaced_unbroken (ht : Edged token) (before : Option Char) (text : List Char) :
    Unbroken (replaceTokenFrom token l before 0 text) → stands token before text = true →
      before.any isWord = false ∧ text = token := by
  induction before, text using scan_induction ht.ne_nil with
  | nil before =>
    intro _ h
    exact (ht.ne_nil (List.prefix_nil.mp (beginning_of_tokenAt h))).elim
  | found before rest hfound ih =>
    intro hu _
    obtain ⟨hb, rest', hrest, hr⟩ := (tokenAt_iff ht).mp hfound
    obtain rfl := List.append_cancel_left hrest
    rw [replaceTokenFrom_found ht.ne_nil hfound] at hu
    refine ⟨hb, ?_⟩
    rcases rest with _ | ⟨c, rest⟩
    · exact List.append_nil token
    · -- The character behind the token would be copied, and it is no part of a word.
      rw [replaceTokenFrom_other (tokenAt_space ht hr)] at hu
      have hc : isWord c = true := hu c (by simp)
      exact (Bool.false_ne_true (hr.symm.trans hc)).elim
  | other before c rest hother ih =>
    intro hu h
    rw [replaceTokenFrom_other hother] at hu
    rw [stands, hother, Bool.false_or] at h
    have hc : (some c).any isWord = true := hu c (by simp)
    have hb := (ih (fun d hd => hu d (by simp [hd])) h).1
    exact (Bool.false_ne_true (hb.symm.trans hc)).elim

theorem eq_of_replaced_word {token replacement text w : String} (ht : Edged token.toList)
    (hw : Word w) (h : replaceToken token replacement text = w) :
    text = w ∨ text = token ∧ replacement = w := by
  by_cases hs : StandsIn token text
  · have hlist := congrArg String.toList h
    rw [replaceToken, String.toList_ofList] at hlist
    obtain ⟨-, htext⟩ := eq_of_replaced_unbroken ht none text.toList
      (l := replacement.toList) (hlist ▸ hw.unbroken) hs
    obtain rfl : text = token := String.toList_inj.mp htext
    rw [replaceToken_self hs] at h
    exact Or.inr ⟨rfl, h⟩
  · rw [replaceToken_eq_self hs] at h
    exact Or.inl h

end Text

namespace Branch

variable {branches earlier later : List ResolvedBranch} {b : ResolvedBranch} {name text : String}

theorem space_not_mem_label (id : StateId) : ' ' ∉ id.label.toList := by
  intro h
  have hword := id.label_tokenWord.unbroken ' ' h
  revert hword
  decide

theorem spacedWords_substituteText (hs : ∀ b ∈ branches, ' ' ∉ b.name.toList) (text : String) :
    Text.spacedWords (substituteText branches text) =
      (Text.spacedWords text).map (substituteText branches) := by
  induction branches generalizing text with
  | nil =>
    have hid : substituteText [] = id := rfl
    rw [hid, List.map_id]
    rfl
  | cons b branches ih =>
    rw [substituteText_cons, ih fun c hc => hs c (by simp [hc]),
      Text.spacedWords_replaceToken (hs b (by simp)) (space_not_mem_label b.target), List.map_map]
    rfl

theorem not_standsIn_label (hne : name ≠ "") (hr : isReserved name = false) (id : StateId) :
    ¬ Text.StandsIn name id.label := by
  intro h
  have hpart : name.toList <:+: id.label.toList := Text.infix_of_stands h
  have hword : Text.TokenWord name :=
    Text.tokenWord_of_ascii hne fun c hc => id.label_ascii c (hpart.subset hc)
  have hlabel := id.label_tokenWord
  have hsame := (Text.stands_only hword.edged hword.unbroken hlabel.ne_nil hlabel.unbroken rfl).mp h
  exact StateId.label_ne_of_unreserved hr id (String.toList_inj.mp hsame)

theorem substituteText_append (earlier later : List ResolvedBranch) (text : String) :
    substituteText (earlier ++ later) text = substituteText later (substituteText earlier text) :=
  List.foldl_append

/-- A name is substituted as a whole if it stands in itself and no name of an earlier branch
stands in it. -/
theorem substituteText_own (hr : ∀ c ∈ later, isReserved c.name = false)
    (hown : Text.StandsIn b.name b.name) (he : Nameless earlier b.name)
    (hl : ∀ c ∈ later, c.name ≠ "") :
    substituteText (earlier ++ b :: later) b.name = b.target.label := by
  rw [substituteText_append, substituteText_eq_self he, substituteText_cons,
    Text.replaceToken_self hown]
  exact substituteText_eq_self fun c hc => not_standsIn_label (hl c hc) (hr c hc) b.target

theorem eq_label_of_substituteText {id : StateId} (ht : ∀ c ∈ branches, Text.Edged c.name.toList)
    (hi : ∀ c ∈ branches, c.target ≠ id) (h : substituteText branches text = id.label) :
    text = id.label := by
  induction branches generalizing text with
  | nil => exact h
  | cons c branches ih =>
    have hnext := ih (fun d hd => ht d (by simp [hd])) (fun d hd => hi d (by simp [hd])) h
    have hword := Text.eq_of_replaced_word (ht c (by simp)) id.label_tokenWord.toWord hnext
    refine hword.resolve_right ?_
    rintro ⟨-, hlabel⟩
    exact hi c (by simp) (StateId.label_inj.mp hlabel)

/-- If a name comes out as the id of its branch, no name of an earlier branch stands in it. -/
theorem nameless_of_substituteText (ht : ∀ c ∈ earlier ++ b :: later, Text.Edged c.name.toList)
    (hi : ∀ c ∈ earlier ++ later, c.target ≠ b.target) (hr : isReserved b.name = false)
    (hf : ∀ id : StateId, ¬ id.label.toList <:+: b.name.toList)
    (h : substituteText (earlier ++ b :: later) b.name = b.target.label) :
    Nameless earlier b.name := by
  simp only [List.forall_mem_append, List.forall_mem_cons] at ht hi
  rw [substituteText_append, substituteText_cons] at h
  have hown := eq_label_of_substituteText ht.2.2 hi.2 h
  have hword := Text.eq_of_replaced_word ht.2.1 b.target.label_tokenWord.toWord hown
  rcases hword with hlabel | ⟨hname, -⟩
  · have hreserved := eq_label_of_substituteText ht.1 hi.1 hlabel
    exact (StateId.label_ne_of_unreserved hr b.target hreserved).elim
  · exact (substituteText_eq_self_iff hf).mp hname

end Branch

namespace Entity

variable {branches : List ResolvedBranch}

/-- In every run whose branches resolve to names without spaces, each word of a text is
substituted on its own. A word that is a branch name becomes the id of that branch if it
stands in itself, no name that was mentioned before it stands in it, and none behind it is
empty. For names that begin and end inside words, and a word that holds no state id, it does
so exactly if no name that was mentioned before it stands in it. -/
theorem spaced_names_follow_ids (scope name : String) (o : Options) (ops : List Operation)
    (h : (run (new scope name o) ops).branches.resolved = .ok branches)
    (hs : ∀ b ∈ branches, ' ' ∉ b.name.toList) :
    (∀ text, Text.spacedWords (Branch.substituteText branches text) =
      (Text.spacedWords text).map (Branch.substituteText branches)) ∧
    ∀ earlier b later, branches = earlier ++ b :: later →
      Branch.substituteId branches b.name = b.target.label ∧
      (Text.StandsIn b.name b.name → (∀ c ∈ earlier, ¬ Text.StandsIn c.name b.name) →
        (∀ c ∈ later, c.name ≠ "") →
        Branch.substituteText branches b.name = Branch.substituteId branches b.name) ∧
      ((∀ c ∈ branches, Text.Edged c.name.toList) →
        (∀ id : StateId, ¬ id.label.toList <:+: b.name.toList) →
        (Branch.substituteText branches b.name = Branch.substituteId branches b.name ↔
          ∀ c ∈ earlier, ¬ Text.StandsIn c.name b.name)) := by
  have hd := (arranged_run scope name o ops).declares
  have hnames := hd.distinct
  rw [← Registry.names_resolved h] at hnames
  have hreserved : ∀ c ∈ branches, Branch.isReserved c.name = false := fun c hc =>
    hd.unreserved c.toBranch (Registry.resolved_ok.mp h ▸ List.mem_map_of_mem hc)
  refine ⟨Branch.spacedWords_substituteText hs, ?_⟩
  rintro earlier b later rfl
  have hid := Branch.substituteId_of_mem hnames (b := b) (by simp)
  rw [List.map_append, List.map_cons, List.nodup_middle, ← List.map_append,
    List.nodup_cons] at hnames
  have htarget : ∀ c ∈ earlier ++ later, c.target ≠ b.target := by
    intro c hc hsame
    have hmem : ∀ c ∈ earlier ++ b :: later, c.toBranch ∈ (run (new scope name o) ops).branches :=
      fun c hc => Registry.resolved_ok.mp h ▸ List.mem_map_of_mem hc
    have hname := hd.injective c.toBranch (hmem c (by simp at hc ⊢; tauto)) b.toBranch
      (hmem b (by simp)) b.target (congrArg some hsame) rfl
    exact hnames.1 (List.mem_map.mpr ⟨c, hc, hname⟩)
  rw [hid]
  refine ⟨rfl, fun hown he hl => ?_, fun ht hf => ⟨fun hsame => ?_, fun he => ?_⟩⟩
  · exact Branch.substituteText_own (fun c hc => hreserved c (by simp [hc])) hown he hl
  · exact Branch.nameless_of_substituteText ht htarget (hreserved b (by simp)) hf hsame
  · refine Branch.substituteText_own (fun c hc => hreserved c (by simp [hc]))
      (Text.standsIn_self (ht b (by simp))) he fun c hc hempty => ?_
    exact (ht c (by simp [hc])).ne_nil (by rw [hempty]; rfl)

def wholeFirstRun : List Operation := [
  .addLoopState { connections := ["very-hurt", "hurt"] },
  .addLoopState { name := some "hurt" },
  .addLoopState { name := some "very-hurt" }]

def wholeFirst : List ResolvedBranch :=
  [⟨"very-hurt", ⟨2⟩, [⟨0⟩]⟩, ⟨"hurt", ⟨1⟩, [⟨0⟩]⟩]

theorem whole_first_follows_ids :
    (run (new "dev" "Boss" {}) wholeFirstRun).branches.resolved = .ok wholeFirst ∧
    (∀ b ∈ wholeFirst, ' ' ∉ b.name.toList) ∧
    (∀ b ∈ wholeFirst, Text.Edged b.name.toList) ∧
    (∀ id : StateId, ¬ id.label.toList <:+: "hurt".toList) ∧
    ¬ Text.StandsIn "very-hurt" "hurt" ∧
    Branch.substituteText wholeFirst "very-hurt" = "state_2" ∧
    Text.spacedWords (Branch.substituteText wholeFirst "/event entity @s very-hurt hurt") =
      ["/event", "entity", "@s", "state_2", "state_1"] := by
  have hresolved :
      (run (new "dev" "Boss" {}) wholeFirstRun).branches.resolved = .ok wholeFirst := by
    decide +kernel
  have hspace : ∀ b ∈ wholeFirst, ' ' ∉ b.name.toList := by decide +kernel
  have hedged : ∀ b ∈ wholeFirst, Text.Edged b.name.toList := by
    intro b hb
    simp only [wholeFirst, List.mem_cons, List.not_mem_nil, or_false] at hb
    rcases hb with rfl | rfl <;> constructor <;> decide +kernel
  have hlabel : ∀ id : StateId, ¬ id.label.toList <:+: "hurt".toList := by
    intro id hpart
    rw [StateId.label_toList] at hpart
    have hletter : 's' ∈ "hurt".toList := hpart.subset (by simp)
    revert hletter
    decide
  obtain ⟨hwords, hnames⟩ := spaced_names_follow_ids "dev" "Boss" {} wholeFirstRun hresolved hspace
  obtain ⟨hfirst, hrewritten, -⟩ := hnames [] ⟨"very-hurt", ⟨2⟩, [⟨0⟩]⟩ [⟨"hurt", ⟨1⟩, [⟨0⟩]⟩] rfl
  obtain ⟨hsecond, -, hexact⟩ := hnames [⟨"very-hurt", ⟨2⟩, [⟨0⟩]⟩] ⟨"hurt", ⟨1⟩, [⟨0⟩]⟩ [] rfl
  have hvery : Branch.substituteText wholeFirst "very-hurt" = "state_2" :=
    (hrewritten (by decide +kernel) (by simp) (by simp)).trans hfirst
  have hapart : ¬ Text.StandsIn "very-hurt" "hurt" := by decide +kernel
  have hhurt : Branch.substituteText wholeFirst "hurt" = "state_1" :=
    ((hexact hedged hlabel).mpr (by simpa using hapart)).trans hsecond
  refine ⟨hresolved, hspace, hedged, hlabel, hapart, hvery, ?_⟩
  have hparts : Text.spacedWords "/event entity @s very-hurt hurt" =
      ["/event", "entity", "@s", "very-hurt", "hurt"] := by decide +kernel
  rw [hwords, hparts]
  simp only [List.map_cons, List.map_nil, hvery, hhurt]
  decide +kernel

/-- The part is mentioned before the whole; and a name may end in a number that is no part of a
word. -/
theorem part_first_misses_ids : ∃ branches superscript,
    (run (new "dev" "Boss" {}) [
      .addLoopState { connections := ["hurt", "very-hurt"] },
      .addLoopState { name := some "hurt" },
      .addLoopState { name := some "very-hurt" }]).branches.resolved = .ok branches ∧
    (run (new "dev" "Boss" {}) [
      .addLoopState { name := some "hurt²" }]).branches.resolved = .ok superscript ∧
    Branch.substituteId branches "very-hurt" = "state_2" ∧
    Text.spacedWords (Branch.substituteText branches "/event entity @s very-hurt") =
      ["/event", "entity", "@s", "very-state_1"] ∧
    Branch.substituteId superscript "hurt²" = "state_0" ∧
    Text.spacedWords (Branch.substituteText superscript "/event entity @s hurt²") =
      ["/event", "entity", "@s", "hurt²"] := by
  refine ⟨[⟨"hurt", ⟨1⟩, [⟨0⟩]⟩, ⟨"very-hurt", ⟨2⟩, [⟨0⟩]⟩], [⟨"hurt²", ⟨0⟩, []⟩], ?_⟩
  decide +kernel

end Entity
end EntityPack
