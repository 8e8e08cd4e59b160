import EntityPack.Text
import Mathlib.Data.List.Basic

/-!
# Where a token stands

Replacement reads a text from left to right. A text in which the token stands nowhere is
left alone, and one in which it stands somewhere comes out with the replacement in it.
-/
namespace EntityPack.Text

def stands (token : List Char) : Option Char → List Char → Bool
  | before, [] => tokenAt token before []
  | before, c :: rest => tokenAt token before (c :: rest) || stands token (some c) rest

def StandsIn (token text : String) : Prop := stands token.toList none text.toList = true

instance (token text : String) : Decidable (StandsIn token text) :=
  inferInstanceAs (Decidable (_ = true))

/-- The last character before what comes after `text`, which itself follows `before`. -/
def endOf (before : Option Char) (text : List Char) : Option Char := text.getLast?.or before

variable {token replacement text rest : List Char} {before : Option Char} {c : Char}

theorem prefix_before {sep : Char} (hs : sep ∉ token) :
    token <+: text ++ sep :: rest ↔ token <+: text := by
  refine ⟨fun ⟨y, hy⟩ => ?_, fun h => h.trans (List.prefix_append text _)⟩
  rcases List.append_eq_append_iff.mp hy with ⟨z, hx, -⟩ | ⟨z, hx, hz⟩
  · exact ⟨z, hx.symm⟩
  · rcases z with _ | ⟨c, z⟩
    · exact ⟨[], by rw [hx, List.append_nil, List.append_nil]⟩
    · obtain rfl : sep = c := (List.cons.inj hz).1
      exact (hs (by simp [hx])).elim

theorem separated_induction (sep : Char) {motive : List Char → Prop}
    (last : ∀ x, sep ∉ x → motive x)
    (more : ∀ x rest, sep ∉ x → motive rest → motive (x ++ sep :: rest)) (text : List Char) :
    motive text := by
  induction hn : text.length using Nat.strongRecOn generalizing text with
  | ind n ih =>
    by_cases hsep : sep ∈ text
    · obtain ⟨x, rest, rfl, hx⟩ := List.eq_append_cons_of_mem hsep
      have hlt : rest.length < n := by
        rw [List.length_append, List.length_cons] at hn
        omega
      exact more x rest hx (ih _ hlt rest rfl)
    · exact last text hsep

@[simp] theorem endOf_nil (before : Option Char) : endOf before [] = before := by
  simp [endOf]

@[simp] theorem endOf_cons (before : Option Char) (c : Char) (text : List Char) :
    endOf before (c :: text) = endOf (some c) text := by
  cases h : text.getLast? <;> simp [endOf, List.getLast?_cons, h]

theorem endOf_eq_getLast? (h : token ≠ []) (before : Option Char) :
    endOf before token = token.getLast? := by
  rw [endOf, Option.or_of_isSome (by simpa using h)]

theorem beginning_of_tokenAt (h : tokenAt token before text = true) : token <+: text := by
  simp only [tokenAt, Bool.and_eq_true] at h
  exact List.isPrefixOf_iff_prefix.mp h.1.1

/-- Of what comes before a text only matters whether a word goes on. -/
theorem tokenAt_congr {before' : Option Char} (hb : before.any isWord = before'.any isWord)
    (token text : List Char) : tokenAt token before text = tokenAt token before' text := by
  cases hl : token.getLast? with
  | none =>
    obtain rfl : token = [] := List.getLast?_eq_none_iff.mp hl
    rfl
  | some d => simp only [tokenAt, isBoundary, hb, hl, Option.some_or]

theorem replaceTokenFrom_congr {before' : Option Char}
    (hb : before.any isWord = before'.any isWord) (text : List Char) :
    replaceTokenFrom token replacement before 0 text =
      replaceTokenFrom token replacement before' 0 text := by
  cases text with
  | nil => rfl
  | cons c text => simp only [replaceTokenFrom, tokenAt_congr hb]

theorem replaceTokenFrom_skip (before : Option Char) (skipped rest : List Char) :
    replaceTokenFrom token replacement before skipped.length (skipped ++ rest) =
      replaceTokenFrom token replacement (endOf before skipped) 0 rest := by
  induction skipped generalizing before with
  | nil => rw [endOf_nil, List.nil_append, List.length_nil]
  | cons c skipped ih =>
    rw [List.cons_append, List.length_cons, replaceTokenFrom, ih, endOf_cons]

theorem replaceTokenFrom_nil (h : token ≠ []) (before : Option Char) :
    replaceTokenFrom token replacement before 0 [] = [] := by
  simp [replaceTokenFrom, h]

theorem replaceTokenFrom_found (hne : token ≠ []) (h : tokenAt token before (token ++ rest)) :
    replaceTokenFrom token replacement before 0 (token ++ rest) =
      replacement ++ replaceTokenFrom token replacement (endOf before token) 0 rest := by
  obtain ⟨c, token, rfl⟩ := List.exists_cons_of_ne_nil hne
  rw [List.cons_append] at h ⊢
  rw [replaceTokenFrom, if_pos h, endOf_cons, ← replaceTokenFrom_skip]
  rfl

theorem replaceTokenFrom_other (h : tokenAt token before (c :: rest) = false) :
    replaceTokenFrom token replacement before 0 (c :: rest) =
      c :: replaceTokenFrom token replacement (some c) 0 rest := by
  rw [replaceTokenFrom, if_neg (by simp [h])]

/-- A text is read as the replacement reads it: behind each occurrence of the token that is
replaced, and otherwise character by character. -/
theorem scan_induction (hne : token ≠ []) {motive : Option Char → List Char → Prop}
    (nil : ∀ before, motive before [])
    (found : ∀ before rest, tokenAt token before (token ++ rest) = true →
      motive (endOf before token) rest → motive before (token ++ rest))
    (other : ∀ before c rest, tokenAt token before (c :: rest) = false →
      motive (some c) rest → motive before (c :: rest))
    (before : Option Char) (text : List Char) : motive before text := by
  induction hn : text.length using Nat.strongRecOn generalizing before text with
  | ind n ih =>
    cases text with
    | nil => exact nil before
    | cons c text =>
      by_cases ht : tokenAt token before (c :: text) = true
      · obtain ⟨rest, hrest⟩ := beginning_of_tokenAt ht
        rw [← hrest] at ht hn ⊢
        have hlt : rest.length < n := by
          have hpos := List.length_pos_iff.mpr hne
          rw [List.length_append] at hn
          omega
        exact found before rest ht (ih _ hlt _ _ rfl)
      · have hlt : text.length < n := by
          rw [List.length_cons] at hn
          omega
        exact other before c text (by simpa using ht) (ih _ hlt _ _ rfl)

theorem stands_append (x y : List Char) (h : stands token (endOf before x) y = true) :
    stands token before (x ++ y) = true := by
  induction x generalizing before with
  | nil => simpa using h
  | cons c x ih =>
    rw [endOf_cons] at h
    simp [stands, ih h]

theorem infix_of_stands (h : stands token before text = true) : token <:+: text := by
  induction text generalizing before with
  | nil => exact (beginning_of_tokenAt h).isInfix
  | cons c text ih =>
    rw [stands, Bool.or_eq_true] at h
    rcases h with h | h
    · exact (beginning_of_tokenAt h).isInfix
    · exact (ih h).trans (List.suffix_cons c text).isInfix

theorem replaceTokenFrom_eq_self (h : stands token before text = false) :
    replaceTokenFrom token replacement before 0 text = text := by
  induction text generalizing before with
  | nil =>
    refine replaceTokenFrom_nil ?_ before
    rintro rfl
    cases before <;> simp [stands, tokenAt, asksBoundary] at h
  | cons c text ih =>
    rw [stands, Bool.or_eq_false_iff] at h
    rw [replaceTokenFrom_other h.1, ih h.2]

theorem infix_replaceTokenFrom (h : stands token before text = true) :
    replacement <:+: replaceTokenFrom token replacement before 0 text := by
  induction text generalizing before with
  | nil =>
    obtain rfl : token = [] := List.prefix_nil.mp (beginning_of_tokenAt h)
    exact List.infix_rfl
  | cons c text ih =>
    rw [stands, Bool.or_eq_true] at h
    by_cases ht : tokenAt token before (c :: text) = true
    · rw [replaceTokenFrom, if_pos ht]
      split <;> exact (List.prefix_append _ _).isInfix
    · have hother : tokenAt token before (c :: text) = false := by simpa using ht
      rw [replaceTokenFrom_other hother]
      exact (ih (h.resolve_left ht)).trans (List.suffix_cons c _).isInfix

theorem replaceToken_eq_self {token text : String} (h : ¬ StandsIn token text)
    (replacement : String) : replaceToken token replacement text = text := by
  have hs : stands token.toList none text.toList = false := by simpa [StandsIn] using h
  rw [replaceToken, replaceTokenFrom_eq_self hs, String.ofList_toList]

theorem infix_replaceToken {token text : String} (h : StandsIn token text)
    (replacement : String) :
    replacement.toList <:+: (replaceToken token replacement text).toList := by
  rw [replaceToken, String.toList_ofList]
  exact infix_replaceTokenFrom h

end EntityPack.Text
