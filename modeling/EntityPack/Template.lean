import EntityPack.Identifier
import EntityPack.Json
import EntityPack.Text

/-!
# String variables and bare documents

`%name` placeholders in finished documents. A placeholder that is a whole text can become any value;
inside a longer text only texts can be put in. Longer names come first, so that `%name` does not cut
into `%namespace`. Bare documents are starting points for entities that are written by hand.
-/
namespace EntityPack

structure Variables where
  entries : Entries Json
  sorted : (Entries.keys entries).Pairwise (· < ·)

namespace Variables

def empty : Variables := ⟨[], .nil⟩

instance : Inhabited Variables := ⟨empty⟩

def place (name : String) (value : Json) : Entries Json → Entries Json
  | [] => [(name, value)]
  | (k, v) :: rest =>
    if name < k then (name, value) :: (k, v) :: rest
    else if name = k then (name, value) :: rest
    else (k, v) :: place name value rest

theorem mem_keys_place {name key : String} {value : Json} {entries : Entries Json} :
    key ∈ Entries.keys (place name value entries) ↔
      key = name ∨ key ∈ Entries.keys entries := by
  fun_induction place name value entries with
  | case1 => simp [Entries.keys]
  | case2 => simp [Entries.keys]
  | case3 v rest h => simp [Entries.keys]
  | case4 k v rest h1 h2 ih =>
    simp only [Entries.keys, List.map_cons, List.mem_cons] at ih ⊢
    rw [ih]
    exact or_left_comm

theorem pairwise_place {name : String} {value : Json} {entries : Entries Json}
    (h : (Entries.keys entries).Pairwise (· < ·)) :
    (Entries.keys (place name value entries)).Pairwise (· < ·) := by
  fun_induction place name value entries with
  | case1 => simp [Entries.keys]
  | case2 k v rest hlt =>
    simp only [Entries.keys, List.map_cons, List.pairwise_cons] at h ⊢
    refine ⟨fun key hkey => ?_, h⟩
    rcases List.mem_cons.1 hkey with rfl | hkey
    · exact hlt
    · exact String.lt_trans hlt (h.1 key hkey)
  | case3 v rest hlt => simpa [Entries.keys] using h
  | case4 k v rest hlt hne ih =>
    simp only [Entries.keys, List.map_cons, List.pairwise_cons] at h ⊢
    refine ⟨fun key hkey => ?_, ih h.2⟩
    rcases mem_keys_place.1 hkey with rfl | hkey
    · exact Decidable.byContradiction fun hge =>
        hne (String.le_antisymm (String.not_lt.1 hge) (String.not_lt.1 hlt))
    · exact h.1 key hkey

def set (name : String) (value : Json) (v : Variables) : Variables :=
  ⟨place name value v.entries, pairwise_place v.sorted⟩

def ofList (entries : Entries Json) : Variables :=
  entries.foldl (fun v entry => v.set entry.1 entry.2) empty

def isEmpty (v : Variables) : Bool := v.entries.isEmpty

def placeByLength (pattern : String × Json) : List (String × Json) → List (String × Json)
  | [] => [pattern]
  | other :: rest =>
    if other.1.utf8ByteSize < pattern.1.utf8ByteSize then pattern :: other :: rest
    else other :: placeByLength pattern rest

/-- The placeholders, the longest first; those of one length stay in the order of names. -/
def patterns (v : Variables) : List (String × Json) :=
  v.entries.foldl (fun acc entry => placeByLength ("%" ++ entry.1, entry.2) acc) []

def splice (text : String) (pattern : String × Json) : Except BuildError String :=
  if Text.contains text pattern.1 then
    match pattern.2 with
    | .str value => .ok (Text.replaceAll pattern.1 value text)
    | _ => .error (.variableType (String.ofList (pattern.1.toList.dropWhile (· == '%'))))
  else .ok text

def substitute (patterns : List (String × Json)) (text : String) : Except BuildError Json :=
  if text.toList.contains '%' then
    match patterns.find? (·.1 == text) with
    | some pattern => .ok pattern.2
    | none => (patterns.foldlM splice text).map .str
  else .ok (.str text)

mutual
/-- Replaces the texts below a value in document order, up to the first that fails. -/
def walk (f : String → Except BuildError Json) : Json → Json × Except BuildError Unit
  | .str text =>
    match f text with
    | .ok value => (value, .ok ())
    | .error e => (.str text, .error e)
  | .arr items =>
    let (items, outcome) := walkItems f items
    (.arr items, outcome)
  | .obj fields =>
    let (fields, outcome) := walkFields f fields
    (.obj fields, outcome)
  | value => (value, .ok ())
def walkItems (f : String → Except BuildError Json) :
    List Json → List Json × Except BuildError Unit
  | [] => ([], .ok ())
  | value :: rest =>
    match walk f value with
    | (value, .ok ()) =>
      let (rest, outcome) := walkItems f rest
      (value :: rest, outcome)
    | (value, .error e) => (value :: rest, .error e)
def walkFields (f : String → Except BuildError Json) :
    List (String × Json) → List (String × Json) × Except BuildError Unit
  | [] => ([], .ok ())
  | (key, value) :: rest =>
    match walk f value with
    | (value, .ok ()) =>
      let (rest, outcome) := walkFields f rest
      ((key, value) :: rest, outcome)
    | (value, .error e) => ((key, value) :: rest, .error e)
end

/-- Replaces the placeholders of a document. A failure keeps the texts before it replaced. -/
def apply (v : Variables) (document : Json) : Json × Except BuildError Unit :=
  if v.isEmpty then (document, .ok ()) else walk (substitute v.patterns) document

def render (v : Variables) (document : Json) : Except BuildError Json :=
  match v.apply document with
  | (document, .ok ()) => .ok document
  | (_, .error e) => .error e

end Variables

namespace Template

def behavior (scope id : String) : Json :=
  .obj [("format_version", .str "1.16.0"),
    ("minecraft:entity", .obj [
      ("description", .obj [("identifier", .str (qualify (some scope) id)),
        ("is_spawnable", .bool true), ("is_summonable", .bool true),
        ("is_experimental", .bool false)]),
      ("components", .obj []), ("component_groups", .obj []), ("events", .obj [])])]

def resource (scope id : String) : Json :=
  .obj [("format_version", .str "1.8.0"),
    ("minecraft:client_entity", .obj [
      ("description", .obj [("identifier", .str (qualify (some scope) id)),
        ("geometry", .obj [("default", .str "geometry.humanoid.customSlim")]),
        ("spawn_egg", .obj [("base_color", .str "#000000"),
          ("overlay_color", .str "#ff00ff")])])])]

end Template
end EntityPack
