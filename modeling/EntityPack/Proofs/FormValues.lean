import EntityPack.Form.Reading
import EntityPack.Form.Writing
import EntityPack.Proofs.Entries

/-!
# Values of forms

What a form writes for a value is read as the same value: numbers within their types, finite
floats, lists, absent values, and the records that have no defaults.
-/
namespace EntityPack

namespace PropertyValue

def Fits : PropertyValue → Prop
  | .int value => IntegerType.i64.holds value = true
  | .float value => value.isFinite = true
  | _ => True

instance : (value : PropertyValue) → Decidable value.Fits
  | .int value => inferInstanceAs (Decidable (IntegerType.i64.holds value = true))
  | .float value => inferInstanceAs (Decidable (value.isFinite = true))
  | .bool _ => .isTrue trivial
  | .text _ => .isTrue trivial
  | .molang _ => .isTrue trivial

end PropertyValue

namespace Damage

def Fits : Damage → Prop
  | .fixed amount => IntegerType.u32.holds amount = true
  | .range min max => IntegerType.u32.holds min = true ∧ IntegerType.u32.holds max = true

instance : (damage : Damage) → Decidable damage.Fits
  | .fixed amount => inferInstanceAs (Decidable (IntegerType.u32.holds amount = true))
  | .range min max =>
    inferInstanceAs (Decidable
      (IntegerType.u32.holds min = true ∧ IntegerType.u32.holds max = true))

end Damage

/-- Variables whose names come in order are placed one behind the other. -/
theorem Variables.place_behind {entries : Entries Json} {name : String} {value : Json}
    (h : ∀ key ∈ Entries.keys entries, key < name) :
    place name value entries = entries ++ [(name, value)] := by
  induction entries with
  | nil => rfl
  | cons entry entries ih =>
    obtain ⟨key, other⟩ := entry
    have hkey : key < name := h key (List.mem_cons_self ..)
    have hbehind : ¬ name < key := fun hlt => String.lt_irrefl key (String.lt_trans hkey hlt)
    have hne : name ≠ key := fun heq => String.lt_irrefl key (heq ▸ hkey)
    rw [place, if_neg hbehind, if_neg hne, ih fun k hk => h k (List.mem_cons_of_mem _ hk)]
    rfl

theorem Variables.entries_set_all {later : Entries Json} {v : Variables}
    (h : (Entries.keys (v.entries ++ later)).Pairwise (· < ·)) :
    (later.foldl (fun v entry => v.set entry.1 entry.2) v).entries = v.entries ++ later := by
  induction later generalizing v with
  | nil => exact (List.append_nil _).symm
  | cons entry later ih =>
    have hentries : (v.set entry.1 entry.2).entries = v.entries ++ [entry] := by
      refine place_behind fun key hkey => ?_
      rw [Entries.keys, List.map_append, List.pairwise_append] at h
      exact h.2.2 key hkey entry.1 (List.mem_cons_self ..)
    rw [List.foldl_cons, ih, hentries, List.append_assoc, List.singleton_append]
    rwa [hentries, List.append_assoc, List.singleton_append]

theorem Variables.ofList_entries (v : Variables) : ofList v.entries = v := by
  have hentries : (ofList v.entries).entries = v.entries := entries_set_all (v := .empty) v.sorted
  generalize ofList v.entries = read at hentries
  cases read
  cases v
  cases hentries
  rfl

namespace Form

variable {α : Type} {read : Json → Option α} {write : α → Json}

open Datum

theorem text?_str (text : String) : text? (Json.str text) = some text := rfl

theorem flag?_bool (value : Bool) : flag? (Json.bool value) = some value := rfl

theorem integer?_int {type : IntegerType} {value : Int} (h : type.holds value = true) :
    integer? type (Json.int value) = some value := if_pos h

theorem natural?_ofNat {type : IntegerType} {n : Nat} (h : type.holds n = true) :
    natural? type (Json.ofNat n) = some n := by
  have hread : integer? type (Json.ofNat n) = some (n : Int) := integer?_int h
  rw [natural?, hread]
  rfl

theorem number?_ofFloat {value : Float} (h : value.isFinite = true) :
    number? (Json.ofFloat value) = some value := by
  rw [Json.ofFloat, if_pos h]
  rfl

theorem ofFloat_ne_null {value : Float} (h : value.isFinite = true) :
    Json.ofFloat value ≠ .null := by
  rw [Json.ofFloat, if_pos h]
  exact fun heq => by cases heq

theorem listOf_arr {values : List α} (h : ∀ value ∈ values, read (write value) = some value) :
    listOf read (.arr (values.map write)) = some values := by
  have hitems : (values.map write).mapM read = some values := by
    induction values with
    | nil => rfl
    | cons value values ih =>
      rw [List.map_cons, List.mapM_cons, h value (List.mem_cons_self ..),
        ih fun v hv => h v (List.mem_cons_of_mem _ hv)]
      rfl
  exact hitems

theorem texts?_ofStrings (texts : List String) : texts? (Json.ofStrings texts) = some texts :=
  listOf_arr fun text _ => text?_str text

theorem optionOf_optional {value : Option α}
    (h : ∀ v ∈ value, write v ≠ .null ∧ read (write v) = some v) :
    optionOf read (optional write value) = some value := by
  cases value with
  | none => rfl
  | some v =>
    obtain ⟨hnull, hread⟩ := h v rfl
    have hpresent : optional? (write v) = some (some (write v)) := by
      cases hjson : write v with
      | null => exact (hnull hjson).elim
      | _ => rfl
    rw [optionOf, optional, Option.map_some, Option.getD_some, hpresent]
    simp [hread]

theorem optionalText?_optional (text : Option String) :
    optionOf text? (optional .str text) = some text :=
  optionOf_optional fun text _ => ⟨fun h => (by cases h), text?_str text⟩

theorem optionalTexts?_optional (texts : Option (List String)) :
    optionOf texts? (optional Json.ofStrings texts) = some texts :=
  optionOf_optional fun texts _ => ⟨fun h => (by cases h), texts?_ofStrings texts⟩

theorem optionalNatural?_optional {type : IntegerType} {value : Option Nat}
    (h : ∀ n ∈ value, type.holds n = true) :
    optionOf (natural? type) (optional Json.ofNat value) = some value :=
  optionOf_optional fun n hn => ⟨fun h => (by cases h), natural?_ofNat (h n hn)⟩

theorem optionalNumber?_optional {value : Option Float}
    (h : ∀ x ∈ value, x.isFinite = true) :
    optionOf number? (optional Json.ofFloat value) = some value :=
  optionOf_optional fun x hx => ⟨ofFloat_ne_null (h x hx), number?_ofFloat (h x hx)⟩

theorem pairOf_ofPair {pair : Float × Float}
    (h : pair.1.isFinite = true ∧ pair.2.isFinite = true) :
    pairOf number? number? (ofPair pair) = some pair := by
  have htuple : tuple? (ofPair pair) = some [.ofFloat pair.1, .ofFloat pair.2] := rfl
  rw [pairOf, htuple]
  simp [number?_ofFloat h.1, number?_ofFloat h.2]

theorem amount?_ofNat {n : Nat} (h : IntegerType.u32.holds n = true) :
    amount? (Json.ofNat n) = some n := by
  have hread : plainInteger? (Json.ofNat n) = some (n : Int) := rfl
  rw [amount?, hread]
  simp [h]

theorem damage?_toJson {damage : Damage} (h : damage.Fits) :
    damage? damage.toJson = some damage := by
  cases damage with
  | fixed amount => rw [Damage.toJson, damage?, amount?_ofNat h]
  | range min max =>
    have hamount : amount? (Json.arr [.ofNat min, .ofNat max]) = none := rfl
    have hitems : sequence? (Json.arr [.ofNat min, .ofNat max]) =
        some [.ofNat min, .ofNat max] := rfl
    rw [Damage.toJson, damage?, hamount, hitems]
    simp [amount?_ofNat h.1, amount?_ofNat h.2]

theorem optionalDamage?_optional {damage : Option Damage} (h : ∀ d ∈ damage, d.Fits) :
    optionalDamage? (optional Damage.toJson damage) = some damage := by
  cases damage with
  | none => rfl
  | some d =>
    have hpresent : untypedOptional? d.toJson = some (some d.toJson) := by cases d <;> rfl
    rw [optionalDamage?, optional, Option.map_some, Option.getD_some, hpresent]
    simp [damage?_toJson (h d rfl)]

theorem component?_ofComponent (c : Component) : component? (ofComponent c) = some c := rfl

theorem propertyValue?_ofPropertyValue {value : PropertyValue} (h : value.Fits) :
    propertyValue? (ofPropertyValue value) = some value := by
  cases value with
  | int value =>
    have hread : integer? .i64 (Json.int value) = some value := integer?_int h
    simp [propertyValue?, ofPropertyValue, case?, payload?, hread]
  | float value =>
    simp [propertyValue?, ofPropertyValue, case?, payload?, number?_ofFloat h]
  | _ => rfl

theorem assignments?_ofAssignments {assignments : Assignments}
    (h : ∀ entry ∈ assignments, entry.2.Fits) :
    assignments? (ofAssignments assignments) = some assignments := by
  refine listOf_arr fun entry hentry => ?_
  have htuple : tuple? (Json.arr [.str entry.1, ofPropertyValue entry.2]) =
      some [.str entry.1, ofPropertyValue entry.2] := rfl
  rw [pairOf, htuple]
  simp [text?_str, propertyValue?_ofPropertyValue (h entry hentry)]

theorem optionalAssignments?_optional {value : Option Assignments}
    (h : ∀ assignments ∈ value, ∀ entry ∈ assignments, entry.2.Fits) :
    optionOf assignments? (optional ofAssignments value) = some value :=
  optionOf_optional fun assignments hm =>
    ⟨fun h => (by cases h), assignments?_ofAssignments (h assignments hm)⟩

theorem variables?_ofVariables (v : Variables) : variables? (ofVariables v) = some v := by
  have hread : entries? (ofVariables v) = some v.entries := rfl
  rw [variables?, hread, Option.map_some, Variables.ofList_entries]

end Form
end EntityPack
