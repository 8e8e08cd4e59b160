/-!
# JSON values

Objects are entries in writing order: inserting a name that is present replaces its first value and
keeps its place, a new name goes to the end. Integers and floats are different values: `1` is an
integer, `1.0` a float.
-/
namespace EntityPack

def modifyFirst {α : Type} (p : α → Bool) (f : α → α) : List α → List α
  | [] => []
  | a :: rest => if p a then f a :: rest else a :: modifyFirst p f rest

abbrev Entries (α : Type) := List (String × α)

namespace Entries

variable {α : Type}

def insert (key : String) (value : α) : Entries α → Entries α
  | [] => [(key, value)]
  | (k, v) :: rest => if k = key then (key, value) :: rest else (k, v) :: insert key value rest

def get? (key : String) : Entries α → Option α
  | [] => none
  | (k, v) :: rest => if k = key then some v else get? key rest

def keys (entries : Entries α) : List String := entries.map (·.1)

def merge (entries later : Entries α) : Entries α :=
  later.foldl (fun acc entry => insert entry.1 entry.2 acc) entries

/-- One entry for each name: the place of its first value, its last value. -/
def ofList (entries : Entries α) : Entries α := merge [] entries

end Entries

inductive IntegerType where
  | u8
  | u16
  | u32
  | u64
  | i8
  | i16
  | i32
  | i64
  deriving DecidableEq, Repr

namespace IntegerType

def all : List IntegerType := [.u8, .u16, .u32, .u64, .i8, .i16, .i32, .i64]

def name : IntegerType → String
  | .u8 => "u8"
  | .u16 => "u16"
  | .u32 => "u32"
  | .u64 => "u64"
  | .i8 => "i8"
  | .i16 => "i16"
  | .i32 => "i32"
  | .i64 => "i64"

def ofName? (name : String) : Option IntegerType := all.find? (·.name == name)

def least : IntegerType → Int
  | .u8 | .u16 | .u32 | .u64 => 0
  | .i8 => -0x80
  | .i16 => -0x8000
  | .i32 => -0x80000000
  | .i64 => -0x8000000000000000

def greatest : IntegerType → Int
  | .u8 => 0xff
  | .u16 => 0xffff
  | .u32 => 0xffffffff
  | .u64 => 0xffffffffffffffff
  | .i8 => 0x7f
  | .i16 => 0x7fff
  | .i32 => 0x7fffffff
  | .i64 => 0x7fffffffffffffff

def holds (type : IntegerType) (value : Int) : Bool :=
  type.least ≤ value && value ≤ type.greatest

end IntegerType

inductive Json where
  | null
  | bool (value : Bool)
  | int (value : Int)
  | float (value : Float)
  | str (text : String)
  | arr (items : List Json)
  | obj (fields : List (String × Json))
  deriving Inhabited, BEq

namespace Json

/-- A number has no text for NaN and the infinities: they become `null`. -/
def ofFloat (value : Float) : Json := if value.isFinite then .float value else .null

def ofNat (value : Nat) : Json := .int value

def ofStrings (texts : List String) : Json := .arr (texts.map .str)

/-- An object; a later field of the same name wins and keeps the first place. -/
def ofFields (fields : Entries Json) : Json := .obj (Entries.ofList fields)

def get? (key : String) : Json → Option Json
  | .obj fields => Entries.get? key fields
  | _ => none

def text? : Json → Option String
  | .str text => some text
  | _ => none

mutual
/-- Applies `f` to every text below a value, field names apart. -/
def mapText (f : String → String) : Json → Json
  | .null => .null
  | .bool value => .bool value
  | .int value => .int value
  | .float value => .float value
  | .str text => .str (f text)
  | .arr items => .arr (mapTextItems f items)
  | .obj fields => .obj (mapTextFields f fields)
def mapTextItems (f : String → String) : List Json → List Json
  | [] => []
  | value :: rest => value.mapText f :: mapTextItems f rest
def mapTextFields (f : String → String) : List (String × Json) → List (String × Json)
  | [] => []
  | (key, value) :: rest => (key, value.mapText f) :: mapTextFields f rest
end

end Json
end EntityPack
