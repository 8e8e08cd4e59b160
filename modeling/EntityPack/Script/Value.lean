import EntityPack.Form.Reading
import EntityPack.Script.Node

/-!
# Reading forms from scripts

Records and tuples are written in round brackets. Where any value is admitted, the script
value becomes JSON.
-/
namespace EntityPack.Script

namespace Node

mutual
/-- The JSON value of a script value of unknown type. The names of tuples and records do not
count, words are empty, and bytes have no JSON form. -/
def toJson? : Node → Option Json
  | .unit => some .null
  | .absent => some .null
  | .present node .value => node.toJson?
  | .present node .item => node.toJson?.map fun value => .arr [value]
  | .present _ .nothing => none
  | .flag value => some (.bool value)
  | .word _ => some .null
  | .number written => anyNumber? written
  | .text value => some (.str value)
  | .char value => some (.str value.toString)
  | .byte value => some (.int value)
  | .bytes => none
  | .list items => (allToJson? items).map .arr
  | .map entries => (entriesToJson? entries).map .ofFields
  | .tuple _ items => (allToJson? items).map .arr
  | .record _ fields => (fieldsToJson? fields).map .ofFields
def allToJson? : List Node → Option (List Json)
  | [] => some []
  | node :: rest =>
    match node.toJson?, allToJson? rest with
    | some value, some values => some (value :: values)
    | _, _ => none
def entriesToJson? : List (Node × Node) → Option (List (String × Json))
  | [] => some []
  | (.text key, node) :: rest =>
    match node.toJson?, entriesToJson? rest with
    | some value, some values => some ((key, value) :: values)
    | _, _ => none
  | _ :: _ => none
def fieldsToJson? : List (String × Node) → Option (List (String × Json))
  | [] => some []
  | (key, node) :: rest =>
    match node.toJson?, fieldsToJson? rest with
    | some value, some values => some ((key, value) :: values)
    | _, _ => none
end

end Node

def maxLevels : Nat := 128

structure Value where
  settings : Settings
  depth : Nat
  node : Node

namespace Value

def inner (v : Value) (levels : Nat) (node : Node) : Value :=
  { v with depth := v.depth + levels, node }

def isShallow (v : Value) : Bool := v.depth + v.node.levels ≤ maxLevels

def json? (v : Value) : Option Json := if v.isShallow then v.node.toJson? else none

def isIgnorable (v : Value) : Bool := v.isShallow && v.node.isUntyped

def text? (v : Value) : Option String :=
  match v.node with
  | .text value => some value
  | _ => none

def flag? (v : Value) : Option Bool :=
  match v.node with
  | .flag value => some value
  | _ => none

/-- A type that is written behind the digits has to be the one that is asked for. -/
def integer? (type : IntegerType) (v : Value) : Option Int :=
  match v.node with
  | .number written => do
    let (value, named) ← Script.integer? written
    if type.holds value && named.all (· == type) then some value else none
  | _ => none

def plainInteger? (v : Value) : Option Int :=
  match v.node with
  | .number written =>
    match anyNumber? written with
    | some (.int value) => some value
    | _ => none
  | .byte value => some value
  | _ => none

def number? (v : Value) : Option Float :=
  match v.node with
  | .number written => do
    let (value, named) ← float? written
    if named.all (· == .f64) then some value else none
  | _ => none

def items? (v : Value) : Option (List Value) :=
  match v.node with
  | .list items => some (items.map (v.inner 2))
  | _ => none

def tuple? (v : Value) : Option (List Value) :=
  match v.node with
  | .unit => some []
  | .tuple none items => some (items.map (v.inner 2))
  | _ => none

def sequence? (v : Value) : Option (List Value) :=
  match v.node with
  | .unit => some []
  | .list items => some (items.map (v.inner 2))
  | .tuple _ items => some (items.map (v.inner 2))
  | _ => none

def optional? (v : Value) : Option (Option Value) :=
  match v.node with
  | .absent => some none
  | .present node _ => some (some (v.inner 1 node))
  | _ => if v.settings.implicitSome then some (some v) else none

def untypedOptional? (v : Value) : Option (Option Value) :=
  match v.node with
  | .present node .item => some (some (v.inner 1 (.tuple none [node])))
  | .present _ .nothing => none
  | _ => v.optional?

/-- The declared fields, which lie two levels inside; one that is written twice is refused.
The others only have to be well formed. -/
def declared? (v : Value) (fields : List String) :
    List (String × Node) → Option (Entries Value)
  | [] => some []
  | (key, node) :: rest => do
    let rest ← declared? v fields rest
    if fields.contains key then
      if (Entries.get? key rest).isSome then none else some ((key, v.inner 2 node) :: rest)
    else if (v.inner 2 node).isIgnorable then some rest
    else none

def fields? (v : Value) : Option (Option String × List (String × Node)) :=
  match v.node with
  | .unit => some (none, [])
  | .tuple name [] => some (name, [])
  | .record name fields => some (name, fields)
  | _ => none

/-- The name of a record is optional unless the script says otherwise, and has to be the
right one. -/
def record? (name : String) (declared : List String) (v : Value) :
    Option (Entries Value) := do
  let (written, fields) ← v.fields?
  let named := match written with
    | some written => written == name
    | none => !v.settings.explicitNames
  if named then v.declared? declared fields else none

def payloadRecord? (declared : List String) (v : Value) : Option (Entries Value) := do
  match ← v.fields? with
  | (none, fields) => v.declared? declared fields
  | (some _, _) => none

def entries? (v : Value) : Option (Entries Json) :=
  match v.node with
  | .map entries => if v.isShallow then (Node.entriesToJson? entries).map Entries.ofList else none
  | _ => none

/-- A case takes a level, whatever is written with it. -/
def case? (v : Value) : Option (String × Option Value) :=
  match v.node with
  | .word name => some (name, none)
  | .tuple (some name) items => some (name, some (v.inner 1 (.tuple none items)))
  | .record (some name) fields => some (name, some (v.inner 1 (.record none fields)))
  | _ => none

def payload? (v : Value) : Option Value :=
  match v.node with
  | .tuple none [node] => some (v.inner 1 node)
  | _ => none

instance : Datum Value where
  text? := text?
  flag? := flag?
  integer? := integer?
  plainInteger? := plainInteger?
  number? := number?
  items? := items?
  tuple? := tuple?
  sequence? := sequence?
  optional? := optional?
  untypedOptional? := untypedOptional?
  record? := record?
  entries? := entries?
  case? := case?
  payload? := payload?
  payloadRecord? := payloadRecord?
  isUnit _ := false
  json? := json?

end Value

def read? (text : String) : Option Value := (parse? text).map fun (settings, node) =>
  ⟨settings, 0, node⟩

end EntityPack.Script
