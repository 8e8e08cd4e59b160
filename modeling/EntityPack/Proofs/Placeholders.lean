import EntityPack.Proofs.History
import EntityPack.Proofs.Reference
import EntityPack.Proofs.Run

/-!
# Placeholders in documents

The texts of a document are replaced in document order, up to the first that fails. Names of
fields stay, and what has been put in is not looked at again. So is a set of documents: the
first that fails decides the outcome of a build, which has changed nothing but what resolving
the branches changed.
-/
namespace EntityPack

namespace Json

mutual
/-- The second document is the first with other values for its texts. The pairs are the texts
and their values, in document order. -/
inductive Filled : List (String × Json) → Json → Json → Prop where
  | null : Filled [] .null .null
  | bool (value) : Filled [] (.bool value) (.bool value)
  | int (value) : Filled [] (.int value) (.int value)
  | float (value) : Filled [] (.float value) (.float value)
  | str (text value) : Filled [(text, value)] (.str text) value
  | arr {puts items items'} : ItemsFilled puts items items' →
      Filled puts (.arr items) (.arr items')
  | obj {puts fields fields'} : FieldsFilled puts fields fields' →
      Filled puts (.obj fields) (.obj fields')
inductive ItemsFilled : List (String × Json) → List Json → List Json → Prop where
  | nil : ItemsFilled [] [] []
  | cons {puts more value value' rest rest'} : Filled puts value value' →
      ItemsFilled more rest rest' →
      ItemsFilled (puts ++ more) (value :: rest) (value' :: rest')
inductive FieldsFilled :
    List (String × Json) → List (String × Json) → List (String × Json) → Prop where
  | nil : FieldsFilled [] [] []
  | cons (key) {puts more value value' rest rest'} : Filled puts value value' →
      FieldsFilled more rest rest' →
      FieldsFilled (puts ++ more) ((key, value) :: rest) ((key, value') :: rest')
end

def kept (texts : List String) : List (String × Json) := texts.map fun text => (text, .str text)

theorem kept_append (texts more : List String) : kept (texts ++ more) = kept texts ++ kept more :=
  List.map_append

mutual
theorem filled_kept : ∀ value : Json, Filled (kept value.texts) value value
  | .null => .null
  | .bool value => .bool value
  | .int value => .int value
  | .float value => .float value
  | .str text => .str text (.str text)
  | .arr items => .arr (itemsFilled_kept items)
  | .obj fields => .obj (fieldsFilled_kept fields)
theorem itemsFilled_kept : ∀ items : List Json, ItemsFilled (kept (textsOfItems items)) items items
  | [] => .nil
  | value :: rest => by
    rw [textsOfItems, kept_append]
    exact .cons (filled_kept value) (itemsFilled_kept rest)
theorem fieldsFilled_kept : ∀ fields : List (String × Json),
    FieldsFilled (kept (textsOfFields fields)) fields fields
  | [] => .nil
  | (key, value) :: rest => by
    rw [textsOfFields, kept_append]
    exact .cons key (filled_kept value) (fieldsFilled_kept rest)
end

mutual
theorem Filled.texts {puts : List (String × Json)} : ∀ {value value' : Json},
    Filled puts value value' → puts.map Prod.fst = value.texts
  | _, _, .null | _, _, .bool _ | _, _, .int _ | _, _, .float _ => rfl
  | _, _, .str _ _ => rfl
  | _, _, .arr h => h.texts
  | _, _, .obj h => h.texts
theorem ItemsFilled.texts {puts : List (String × Json)} : ∀ {items items' : List Json},
    ItemsFilled puts items items' → puts.map Prod.fst = textsOfItems items
  | _, _, .nil => rfl
  | _, _, .cons h h' => by rw [List.map_append, h.texts, h'.texts, textsOfItems]
theorem FieldsFilled.texts {puts : List (String × Json)} :
    ∀ {fields fields' : List (String × Json)}, FieldsFilled puts fields fields' →
      puts.map Prod.fst = textsOfFields fields
  | _, _, .nil => rfl
  | _, _, .cons key h h' => by rw [List.map_append, h.texts, h'.texts, textsOfFields]
end

end Json

namespace Variables

/-- Either every text got its value, or the first one that fails and all behind it stayed. -/
inductive Outcome (P : String → Json → Prop) (Q : String → BuildError → Prop) :
    List (String × Json) → Except BuildError Unit → Prop where
  | done {puts} : (∀ put ∈ puts, P put.1 put.2) → Outcome P Q puts (.ok ())
  | stopped {before text after cause} : (∀ put ∈ before, P put.1 put.2) → Q text cause →
      Outcome P Q (before ++ Json.kept (text :: after)) (.error cause)

variable {P P' : String → Json → Prop} {Q Q' : String → BuildError → Prop}
  {puts more : List (String × Json)} {outcome : Except BuildError Unit} {cause : BuildError}
  {f : String → Except BuildError Json} {v : Variables}

theorem Outcome.mono (h : Outcome P Q puts outcome)
    (hp : ∀ text value, P text value → P' text value)
    (hq : ∀ text cause, Q text cause → Q' text cause) : Outcome P' Q' puts outcome := by
  rcases h with hputs | ⟨hbefore, htext⟩
  · exact .done fun put hput => hp _ _ (hputs put hput)
  · exact .stopped (fun put hput => hp _ _ (hbefore put hput)) (hq _ _ htext)

theorem Outcome.all (h : Outcome P Q puts (.ok ())) : ∀ put ∈ puts, P put.1 put.2 := by
  cases h with
  | done hputs => exact hputs

theorem Outcome.append (h : Outcome P Q puts (.ok ())) (h' : Outcome P Q more outcome) :
    Outcome P Q (puts ++ more) outcome := by
  cases h' with
  | done hmore => exact .done (List.forall_mem_append.mpr ⟨h.all, hmore⟩)
  | stopped hbefore htext =>
    rw [← List.append_assoc]
    exact .stopped (List.forall_mem_append.mpr ⟨h.all, hbefore⟩) htext

theorem Outcome.kept (h : Outcome P Q puts (.error cause)) (texts : List String) :
    Outcome P Q (puts ++ Json.kept texts) (.error cause) := by
  cases h with
  | stopped hbefore htext =>
    rw [List.append_assoc, ← Json.kept_append]
    exact .stopped hbefore htext

mutual
theorem walk_filled : ∀ value : Json, ∃ puts, Json.Filled puts value (walk f value).1 ∧
    Outcome (fun text value => f text = .ok value) (fun text cause => f text = .error cause)
      puts (walk f value).2
  | .null => ⟨[], .null, .done (by simp)⟩
  | .bool value => ⟨[], .bool value, .done (by simp)⟩
  | .int value => ⟨[], .int value, .done (by simp)⟩
  | .float value => ⟨[], .float value, .done (by simp)⟩
  | .str text => by
    refine ⟨[(text, (walk f (.str text)).1)], .str text _, ?_⟩
    cases h : f text with
    | ok value =>
      simp only [walk, h]
      exact .done (by simpa using h)
    | error cause =>
      simp only [walk, h]
      have hstopped : Outcome (fun text value => f text = .ok value)
          (fun text cause => f text = .error cause) ([] ++ Json.kept (text :: [])) (.error cause) :=
        .stopped (by simp) h
      exact hstopped
  | .arr items => by
    obtain ⟨puts, hfilled, houtcome⟩ := walkItems_filled items
    exact ⟨puts, .arr hfilled, houtcome⟩
  | .obj fields => by
    obtain ⟨puts, hfilled, houtcome⟩ := walkFields_filled fields
    exact ⟨puts, .obj hfilled, houtcome⟩
theorem walkItems_filled : ∀ items : List Json, ∃ puts,
    Json.ItemsFilled puts items (walkItems f items).1 ∧
    Outcome (fun text value => f text = .ok value) (fun text cause => f text = .error cause)
      puts (walkItems f items).2
  | [] => ⟨[], .nil, .done (by simp)⟩
  | value :: rest => by
    obtain ⟨puts, hfilled, houtcome⟩ := walk_filled value
    rw [walkItems]
    rcases hw : walk f value with ⟨value', cause | u⟩ <;> rw [hw] at hfilled houtcome
    · exact ⟨_, .cons hfilled (Json.itemsFilled_kept rest), houtcome.kept _⟩
    · obtain ⟨more, hrest, hmore⟩ := walkItems_filled rest
      exact ⟨_, .cons hfilled hrest, houtcome.append hmore⟩
theorem walkFields_filled : ∀ fields : List (String × Json), ∃ puts,
    Json.FieldsFilled puts fields (walkFields f fields).1 ∧
    Outcome (fun text value => f text = .ok value) (fun text cause => f text = .error cause)
      puts (walkFields f fields).2
  | [] => ⟨[], .nil, .done (by simp)⟩
  | (key, value) :: rest => by
    obtain ⟨puts, hfilled, houtcome⟩ := walk_filled value
    rw [walkFields]
    rcases hw : walk f value with ⟨value', cause | u⟩ <;> rw [hw] at hfilled houtcome
    · exact ⟨_, .cons key hfilled (Json.fieldsFilled_kept rest), houtcome.kept _⟩
    · obtain ⟨more, hrest, hmore⟩ := walkFields_filled rest
      exact ⟨_, .cons key hfilled hrest, houtcome.append hmore⟩
end

def placeholder (name : String) : String := "%" ++ name

theorem placeByLength_perm (p : String × Json) (ps : List (String × Json)) :
    (placeByLength p ps).Perm (p :: ps) := by
  induction ps with
  | nil => exact .refl _
  | cons q ps ih =>
    rw [placeByLength]
    split
    · exact .refl _
    · exact (ih.cons q).trans (.swap p q ps)

theorem patterns_perm (v : Variables) :
    v.patterns.Perm (v.entries.map fun entry => (placeholder entry.1, entry.2)) := by
  have hfold : ∀ (entries : Entries Json) (ps : List (String × Json)),
      (entries.foldl (fun acc entry => placeByLength ("%" ++ entry.1, entry.2) acc) ps).Perm
        (entries.map (fun entry => (placeholder entry.1, entry.2)) ++ ps) := by
    intro entries
    induction entries with
    | nil => exact fun ps => .refl ps
    | cons entry entries ih =>
      intro ps
      rw [List.foldl_cons, List.map_cons, List.cons_append]
      refine (ih _).trans ?_
      refine ((placeByLength_perm _ ps).append_left _).trans ?_
      exact List.perm_middle
  have hall := hfold v.entries []
  rw [List.append_nil] at hall
  exact hall

theorem mem_patterns {p : String × Json} : p ∈ v.patterns ↔
    ∃ entry ∈ v.entries, (placeholder entry.1, entry.2) = p := by
  rw [(patterns_perm v).mem_iff, List.mem_map]

/-- What comes of a text: the value of a variable if the text is its placeholder, and else the
text with the values of one variable after the other put in. -/
inductive Becomes (v : Variables) (text : String) : Json → Prop where
  | whole {name value} : (name, value) ∈ v.entries → text = placeholder name →
      Becomes v text value
  | spliced {out} : (∀ entry ∈ v.entries, text ≠ placeholder entry.1) →
      v.patterns.foldlM splice text = .ok out → Becomes v text (.str out)

structure Fails (v : Variables) (text : String) (cause : BuildError) : Prop where
  inside : ∀ entry ∈ v.entries, text ≠ placeholder entry.1
  fails : v.patterns.foldlM splice text = .error cause
  blames : ∃ name value, (name, value) ∈ v.entries ∧ value.text? = none ∧
    cause = .variableType (String.ofList (name.toList.dropWhile (· == '%')))

@[simp] theorem toList_placeholder (name : String) :
    (placeholder name).toList = '%' :: name.toList := by
  rw [placeholder, String.toList_append]
  rfl

theorem occursIn_iff {pattern text : List Char} :
    Text.occursIn pattern text = true ↔ pattern <:+: text := by
  induction text with
  | nil => rw [Text.occursIn, List.isEmpty_iff, List.infix_nil]
  | cons c text ih =>
    rw [Text.occursIn, Bool.or_eq_true, List.isPrefixOf_iff_prefix, ih, List.infix_cons_iff]

theorem foldlM_splice_plain {ps : List (String × Json)} {text : String}
    (ht : '%' ∉ text.toList) (hp : ∀ p ∈ ps, '%' ∈ p.1.toList) :
    ps.foldlM splice text = .ok text := by
  induction ps with
  | nil => rfl
  | cons p ps ih =>
    have hnot : ¬ Text.contains text p.1 = true := by
      rw [Text.contains, occursIn_iff]
      exact fun hpart => ht (hpart.subset (hp p (by simp)))
    have hsplice : splice text p = .ok text := by rw [splice, if_neg hnot]
    rw [List.foldlM_cons, hsplice]
    exact ih fun q hq => hp q (by simp [hq])

theorem splice_error {text : String} {p : String × Json} (h : splice text p = .error cause) :
    p.2.text? = none ∧ cause = .variableType (String.ofList (p.1.toList.dropWhile (· == '%'))) := by
  obtain ⟨pattern, value⟩ := p
  rw [splice] at h
  split at h
  · cases value with
    | str value => cases h
    | _ => exact ⟨rfl, (Except.error.inj h).symm⟩
  · cases h

theorem foldlM_splice_error {ps : List (String × Json)} {text : String}
    (h : ps.foldlM splice text = .error cause) : ∃ p ∈ ps, p.2.text? = none ∧
      cause = .variableType (String.ofList (p.1.toList.dropWhile (· == '%'))) := by
  induction ps generalizing text with
  | nil => cases h
  | cons p ps ih =>
    rw [List.foldlM_cons] at h
    cases hp : splice text p with
    | error c =>
      rw [hp] at h
      obtain rfl : c = cause := Except.error.inj h
      exact ⟨p, by simp, splice_error hp⟩
    | ok out =>
      rw [hp] at h
      obtain ⟨q, hq, hcause⟩ := ih h
      exact ⟨q, by simp [hq], hcause⟩

theorem substitute_inside {text : String}
    (h : ∀ entry ∈ v.entries, text ≠ placeholder entry.1) :
    substitute v.patterns text = (v.patterns.foldlM splice text).map .str := by
  rw [substitute]
  split
  · have hnone : v.patterns.find? (·.1 == text) = none := by
      refine List.find?_eq_none.mpr fun p hp heq => ?_
      obtain ⟨entry, hentry, rfl⟩ := mem_patterns.mp hp
      exact h entry hentry (by simpa using Eq.symm (by simpa using heq))
    rw [hnone]
  · rename_i hno
    have hplain : v.patterns.foldlM splice text = .ok text := by
      refine foldlM_splice_plain (by simpa using hno) fun p hp => ?_
      obtain ⟨entry, -, rfl⟩ := mem_patterns.mp hp
      simp
    rw [hplain]
    rfl

theorem substitute_whole {text : String}
    (h : ∃ entry ∈ v.entries, text = placeholder entry.1) :
    ∃ entry ∈ v.entries, text = placeholder entry.1 ∧
      substitute v.patterns text = .ok entry.2 := by
  obtain ⟨entry, hentry, rfl⟩ := h
  have hpercent : (placeholder entry.1).toList.contains '%' = true := by simp
  have hsome : (v.patterns.find? (·.1 == placeholder entry.1)).isSome = true := by
    rw [List.find?_isSome]
    exact ⟨_, mem_patterns.mpr ⟨entry, hentry, rfl⟩, by simp⟩
  obtain ⟨p, hp⟩ := Option.isSome_iff_exists.mp hsome
  obtain ⟨found, hfound, rfl⟩ := mem_patterns.mp (List.mem_of_find?_eq_some hp)
  have hname : placeholder found.1 = placeholder entry.1 := by simpa using List.find?_some hp
  refine ⟨found, hfound, hname.symm, ?_⟩
  rw [substitute, if_pos hpercent, hp]

theorem becomes_of_substitute {text : String} {value : Json}
    (h : substitute v.patterns text = .ok value) : Becomes v text value := by
  by_cases hw : ∃ entry ∈ v.entries, text = placeholder entry.1
  · obtain ⟨⟨name, found⟩, hentry, htext, hfound⟩ := substitute_whole hw
    rw [hfound] at h
    obtain rfl : found = value := Except.ok.inj h
    exact .whole hentry htext
  · have hinside : ∀ entry ∈ v.entries, text ≠ placeholder entry.1 :=
      fun entry hentry htext => hw ⟨entry, hentry, htext⟩
    rw [substitute_inside hinside] at h
    cases hs : v.patterns.foldlM splice text with
    | ok out =>
      rw [hs] at h
      obtain rfl : .str out = value := Except.ok.inj h
      exact .spliced hinside hs
    | error cause =>
      rw [hs] at h
      cases h

theorem fails_of_substitute {text : String} (h : substitute v.patterns text = .error cause) :
    Fails v text cause := by
  have hinside : ∀ entry ∈ v.entries, text ≠ placeholder entry.1 := by
    intro entry hentry htext
    obtain ⟨found, -, -, hfound⟩ := substitute_whole ⟨entry, hentry, htext⟩
    rw [hfound] at h
    cases h
  rw [substitute_inside hinside] at h
  cases hs : v.patterns.foldlM splice text with
  | ok out =>
    rw [hs] at h
    cases h
  | error c =>
    rw [hs] at h
    obtain rfl : c = cause := Except.error.inj h
    obtain ⟨p, hp, hvalue, hcause⟩ := foldlM_splice_error hs
    obtain ⟨⟨name, value⟩, hentry, rfl⟩ := mem_patterns.mp hp
    refine ⟨hinside, hs, name, value, hentry, hvalue, ?_⟩
    rw [hcause, toList_placeholder, List.dropWhile_cons_of_pos rfl]

theorem apply_filled (v : Variables) (document : Json) : ∃ puts,
    Json.Filled puts document (v.apply document).1 ∧
    Outcome v.Becomes v.Fails puts (v.apply document).2 := by
  rw [apply]
  split
  · rename_i hempty
    have hentries : v.entries = [] := List.isEmpty_iff.mp hempty
    refine ⟨_, Json.filled_kept document, .done fun put hput => ?_⟩
    obtain ⟨text, -, rfl⟩ := List.mem_map.mp hput
    refine .spliced (by simp [hentries]) ?_
    rw [patterns, hentries]
    rfl
  · obtain ⟨puts, hfilled, houtcome⟩ := walk_filled (f := substitute v.patterns) document
    exact ⟨puts, hfilled, houtcome.mono (fun _ _ => becomes_of_substitute)
      fun _ _ => fails_of_substitute⟩

end Variables

namespace Documents

def inOrder (d : Documents) : List Json :=
  d.behavior :: (d.resource.toList ++ (d.animations.toList ++
    (d.behaviorControllers ++ d.renderControllers)))

variable {f : Json → Except BuildError Json} {cause : BuildError}

theorem mapM_toList (f : Json → Except BuildError Json) (o : Option Json) :
    o.toList.mapM f = Option.toList <$> o.mapM f := by
  cases o with
  | none => rfl
  | some document =>
    rw [Option.toList_some, List.mapM_cons]
    cases h : f document <;> simp [h]

theorem mapM_inOrder (f : Json → Except BuildError Json) (d : Documents) :
    d.inOrder.mapM f = inOrder <$> d.traverse f := by
  simp only [inOrder, traverse, List.mapM_cons, List.mapM_append, mapM_toList, map_eq_pure_bind,
    bind_assoc, pure_bind]

theorem mapM_error_iff {documents : List Json} : documents.mapM f = .error cause ↔
    ∃ before document after, documents = before ++ document :: after ∧
      (∀ d ∈ before, ∃ d', f d = .ok d') ∧ f document = .error cause := by
  induction documents with
  | nil =>
    constructor
    · intro h
      cases h
    · rintro ⟨before, document, after, h, -⟩
      simp at h
  | cons d documents ih =>
    rw [List.mapM_cons]
    cases hd : f d with
    | error c =>
      constructor
      · intro h
        obtain rfl : c = cause := Except.error.inj h
        exact ⟨[], d, documents, rfl, by simp, hd⟩
      · rintro ⟨before, document, after, h, hbefore, hstop⟩
        rcases before with _ | ⟨b, before⟩
        · obtain ⟨rfl, -⟩ := List.cons.inj h
          cases hd.symm.trans hstop
          rfl
        · obtain ⟨rfl, -⟩ := List.cons.inj h
          obtain ⟨d', hd'⟩ := hbefore d (by simp)
          cases hd.symm.trans hd'
    | ok d' =>
      have hmap : (do let rest ← documents.mapM f; pure (d' :: rest)) = Except.error cause ↔
          documents.mapM f = .error cause := by
        cases documents.mapM f <;> simp [bind, Except.bind, pure, Except.pure]
      refine hmap.trans (ih.trans ⟨?_, ?_⟩)
      · rintro ⟨before, document, after, rfl, hbefore, hstop⟩
        exact ⟨d :: before, document, after, rfl,
          List.forall_mem_cons.mpr ⟨⟨d', hd⟩, hbefore⟩, hstop⟩
      · rintro ⟨before, document, after, h, hbefore, hstop⟩
        rcases before with _ | ⟨b, before⟩
        · obtain ⟨rfl, -⟩ := List.cons.inj h
          cases hd.symm.trans hstop
        · obtain ⟨rfl, rfl⟩ := List.cons.inj h
          exact ⟨before, document, after, rfl, (List.forall_mem_cons.mp hbefore).2, hstop⟩

end Documents

namespace Variables

/-- The first document that fails. -/
def StopsAt (v : Variables) (documents : List Json) (cause : BuildError) : Prop :=
  ∃ before document after, documents = before ++ document :: after ∧
    (∀ d ∈ before, (v.apply d).2 = .ok ()) ∧ (v.apply document).2 = .error cause

variable {v : Variables} {document : Json} {cause : BuildError}

theorem render_error_iff : v.render document = .error cause ↔
    (v.apply document).2 = .error cause := by
  rw [render]
  rcases v.apply document with ⟨d, c | u⟩ <;> simp

theorem render_ok_iff : (∃ d, v.render document = .ok d) ↔ (v.apply document).2 = .ok () := by
  rw [render]
  rcases v.apply document with ⟨d, c | u⟩ <;> simp

theorem variableType_of_apply (h : (v.apply document).2 = .error cause) :
    ∃ name, cause = .variableType name := by
  obtain ⟨puts, -, houtcome⟩ := apply_filled v document
  rw [h] at houtcome
  cases houtcome with
  | stopped hbefore htext =>
    obtain ⟨-, -, name, value, -, -, hcause⟩ := htext
    exact ⟨_, hcause⟩

end Variables

namespace Entity

variable {e e' : Entity} {cause : BuildError}

theorem documents_error_iff :
    e.documents = .error cause ↔ e.bindings.StopsAt e.drafts.inOrder cause := by
  have htraverse : e.documents = .error cause ↔
      e.drafts.inOrder.mapM e.bindings.render = .error cause := by
    rw [documents, Documents.mapM_inOrder]
    cases e.drafts.traverse e.bindings.render <;> simp [Functor.map, Except.map]
  rw [htraverse, Documents.mapM_error_iff]
  simp only [Variables.render_error_iff, Variables.render_ok_iff]
  rfl

theorem state_build (e : Entity) : (build.apply e).1 = (resolveBranches.apply e).1 :=
  apply_then_look (fun _ _ => rfl) e

theorem build_unresolved {c : BuildError} (h : e.branches.resolved = .error c) :
    (build.apply e).2 = .error c ∧ (resolveBranches.apply e).2 = .error c := by
  have hrefused := resolveBranches_refused h
  have hbuild : build.apply e = (e, .error c) := Assembly.apply_bind_error hrefused
  rw [hbuild, hrefused]
  exact ⟨rfl, rfl⟩

/-- The texts of a document are replaced in document order, up to the first that fails: a
placeholder becomes the value of its variable, any other text gets the values of all variables
that stand in it. A build leaves the entity as resolving the branches does. Once they are
resolved, it fails exactly if a document fails, for the reason of the first one. -/
theorem placeholders_are_replaced_in_order (v : Variables) (document : Json) (e : Entity) :
    (∃ puts, Json.Filled puts document (v.apply document).1 ∧
      puts.map Prod.fst = document.texts ∧
      Variables.Outcome v.Becomes v.Fails puts (v.apply document).2) ∧
    (build.apply e).1 = (resolveBranches.apply e).1 ∧
    (∀ name, (build.apply e).2 = .error (.variableType name) ↔
      (resolveBranches.apply e).2 = .ok () ∧
      (build.apply e).1.bindings.StopsAt (build.apply e).1.drafts.inOrder (.variableType name)) ∧
    ((resolveBranches.apply e).2 = .ok () → ∀ cause, (build.apply e).2 = .error cause →
      ∃ name, cause = .variableType name) := by
  obtain ⟨puts, hfilled, houtcome⟩ := Variables.apply_filled v document
  refine ⟨⟨puts, hfilled, hfilled.texts, houtcome⟩, state_build e, ?_⟩
  rcases hr : e.branches.resolved with c | branches
  · obtain ⟨hbuild, hresolve⟩ := build_unresolved hr
    obtain ⟨b, -, rfl⟩ := Registry.resolved_error.mp hr
    rw [hbuild, hresolve]
    refine ⟨fun name => ⟨fun h => ?_, fun h => ?_⟩, fun h => ?_⟩
    · cases h
    · cases h.1
    · cases h
  · have hresolve := resolve_eq hr
    rw [build_resolved hresolve, hresolve]
    refine ⟨fun name => ?_, fun _ cause h => ?_⟩
    · rw [documents_error_iff, eq_self_iff_true, true_and]
    · obtain ⟨before, failing, after, -, -, hstop⟩ := documents_error_iff.mp h
      exact Variables.variableType_of_apply hstop

end Entity
end EntityPack
