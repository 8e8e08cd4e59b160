import EntityPack.Script.Token

/-!
# Script values

The values of the script language before their types are known: constants, words, numbers
as they are written, texts, characters, bytes, lists, maps, tuples and records. Tuples and
records may have a name.
-/
namespace EntityPack.Script

/-- What a value that is marked as present counts as where no type is declared. -/
inductive Payload where
  | value
  /-- The only item of a tuple. -/
  | item
  | nothing
  deriving DecidableEq, Repr

inductive Node where
  /-- `()` without anything in between. -/
  | unit
  | absent
  | present (value : Node) (payload : Payload)
  | flag (value : Bool)
  /-- Any word that is not a constant. -/
  | word (name : String)
  | number (written : List Char)
  | text (value : String)
  | char (value : Char)
  | byte (value : Nat)
  /-- What bytes hold does not matter, since no form takes them. -/
  | bytes
  | list (items : List Node)
  | map (entries : List (Node × Node))
  | tuple (name : Option String) (items : List Node)
  | record (name : Option String) (fields : List (String × Node))
  deriving Inhabited

namespace Node

def ofWord (word : Word) : Node :=
  if word.raw then .word word.name
  else
    match word.name with
    | "true" => .flag true
    | "false" => .flag false
    | "None" => .absent
    | name => if (floatWord? name).isSome then .number name.toList else .word name

/-- The value that is marked as present by what stands in brackets. With the setting, the
brackets of a tuple or a record inside may be left out, and the look ahead tells which of
them are. -/
def ofPayload? (s : Settings) (isTuple? : Option Bool) : Node → Option Node
  | .tuple _ [node] =>
    some <| .present node <| match isTuple? with
      | some false => .value
      | some true => .item
      | none => .nothing
  | .tuple _ [] => if s.unwrapPayloads then some (.present .unit .value) else none
  | .tuple name items =>
    if s.unwrapPayloads then
      some (.present (.tuple name items) (if isTuple? = some true then .value else .nothing))
    else none
  | group => if s.unwrapPayloads then some (.present group .value) else none

mutual
/-- The levels of nesting that a value takes. Brackets take one, and each of the values in
them takes another. -/
def levels : Node → Nat
  | .list items => 1 + itemLevels items
  | .tuple _ items => 1 + itemLevels items
  | .map entries => 1 + entryLevels entries
  | .record _ fields => 1 + fieldLevels fields
  | .present node .item => 3 + node.levels
  | .present node _ => 1 + node.levels
  | _ => 0
def itemLevels : List Node → Nat
  | [] => 0
  | node :: rest => max (1 + node.levels) (itemLevels rest)
def entryLevels : List (Node × Node) → Nat
  | [] => 0
  | (key, value) :: rest => max (1 + max key.levels value.levels) (entryLevels rest)
def fieldLevels : List (String × Node) → Nat
  | [] => 0
  | (_, node) :: rest => max (1 + node.levels) (fieldLevels rest)
end

mutual
def isUntyped : Node → Bool
  | .present node payload => payload != .nothing && node.isUntyped
  | .list items => areUntyped items
  | .tuple _ items => areUntyped items
  | .map entries => entriesUntyped entries
  | .record _ fields => fieldsUntyped fields
  | _ => true
def areUntyped : List Node → Bool
  | [] => true
  | node :: rest => node.isUntyped && areUntyped rest
def entriesUntyped : List (Node × Node) → Bool
  | [] => true
  | (key, value) :: rest => key.isUntyped && value.isUntyped && entriesUntyped rest
def fieldsUntyped : List (String × Node) → Bool
  | [] => true
  | (_, node) :: rest => node.isUntyped && fieldsUntyped rest
end

end Node

def readAtom (fuel : Nat) : List Char → Option (Node × List Char)
  | '"' :: rest => do
    let (text, rest) ← readQuoted readTextEscape? fuel rest
    some (.text (String.ofList text), rest)
  | '\'' :: rest => (readChar? rest).map fun (c, rest) => (.char c, rest)
  | 'r' :: rest => do
    let (text, rest) ← readMarkedRaw? rest
    some (.text (String.ofList text), rest)
  | 'b' :: '\'' :: rest => (readByte? rest).map fun (value, rest) => (.byte value, rest)
  | 'b' :: '"' :: rest => do
    let (_, rest) ← readQuoted readBytesEscape? fuel rest
    some (.bytes, rest)
  | 'b' :: 'r' :: rest => (readMarkedRaw? rest).map fun (_, rest) => (.bytes, rest)
  | c :: rest =>
    if isNumberStart c then
      let written := (c :: rest).takeWhile isNumberChar
      (anyNumber? written).map fun _ => (.number written, (c :: rest).dropWhile isNumberChar)
    else none
  | [] => none

mutual
def readNode (s : Settings) : Nat → List Char → Option (Node × List Char)
  | 0, _ => none
  | fuel + 1, text =>
    match text with
    | '(' :: ')' :: rest => some (.unit, rest)
    | '(' :: rest => readGroup s fuel none rest
    | '[' :: rest => do
      let (items, rest) ← readItems s fuel ']' (← skipSpace rest)
      some (.list items, rest)
    | '\x7b' :: rest => do
      let (entries, rest) ← readEntries s fuel (← skipSpace rest)
      some (.map entries, rest)
    | text =>
      match readWord? text with
      | none => readAtom fuel text
      | some (⟨"Some", false⟩, rest) => do
        match ← skipSpace rest with
        | '(' :: text =>
          let (group, rest) ← readGroup s fuel none text
          let isTuple? := if s.unwrapPayloads then isTuple? fuel text else some false
          some (← Node.ofPayload? s isTuple? group, rest)
        | rest =>
          if s.implicitSome then
            (readNode s fuel rest).map fun (node, rest) => (.present node .value, rest)
          else none
      | some (word, rest) =>
        match Node.ofWord word with
        | .word name => do
          match ← skipSpace rest with
          | '(' :: rest => readGroup s fuel (some name) rest
          | rest => some (.word name, rest)
        | constant => some (constant, rest)
def readGroup (s : Settings) : Nat → Option String → List Char → Option (Node × List Char)
  | 0, _, _ => none
  | fuel + 1, name, text => do
    let text ← skipSpace text
    match readWord? text with
    | some (_, rest) =>
      match ← skipSpace rest with
      | ':' :: _ =>
        let (fields, rest) ← readFields s fuel text
        some (.record name fields, rest)
      | _ =>
        let (items, rest) ← readItems s fuel ')' text
        some (.tuple name items, rest)
    | none =>
      let (items, rest) ← readItems s fuel ')' text
      some (.tuple name items, rest)
def readItems (s : Settings) : Nat → Char → List Char → Option (List Node × List Char)
  | 0, _, _ => none
  | fuel + 1, close, text =>
    match text with
    | [] => none
    | c :: rest =>
      if c = close then some ([], rest)
      else do
        let (node, rest) ← readNode s fuel text
        match ← skipSpace rest with
        | ',' :: rest =>
          let (nodes, rest) ← readItems s fuel close (← skipSpace rest)
          some (node :: nodes, rest)
        | c :: rest => if c = close then some ([node], rest) else none
        | [] => none
def readFields (s : Settings) : Nat → List Char → Option (List (String × Node) × List Char)
  | 0, _ => none
  | fuel + 1, text =>
    match text with
    | ')' :: rest => some ([], rest)
    | text => do
      let (word, rest) ← readWord? text
      match ← skipSpace rest with
      | ':' :: rest =>
        let (node, rest) ← readNode s fuel (← skipSpace rest)
        match ← skipSpace rest with
        | ',' :: rest =>
          let (fields, rest) ← readFields s fuel (← skipSpace rest)
          some ((word.name, node) :: fields, rest)
        | ')' :: rest => some ([(word.name, node)], rest)
        | _ => none
      | _ => none
def readEntries (s : Settings) : Nat → List Char → Option (List (Node × Node) × List Char)
  | 0, _ => none
  | fuel + 1, text =>
    match text with
    | '\x7d' :: rest => some ([], rest)
    | text => do
      let (key, rest) ← readNode s fuel text
      match ← skipSpace rest with
      | ':' :: rest =>
        let (value, rest) ← readNode s fuel (← skipSpace rest)
        match ← skipSpace rest with
        | ',' :: rest =>
          let (entries, rest) ← readEntries s fuel (← skipSpace rest)
          some ((key, value) :: entries, rest)
        | '\x7d' :: rest => some ([(key, value)], rest)
        | _ => none
      | _ => none
end

/-- Reads a whole script. No character uses up more than three units of fuel. -/
def parse? (text : String) : Option (Settings × Node) := do
  let chars := text.toList
  let fuel := 3 * chars.length + 3
  let (settings, rest) ← readAttributes fuel {} (← skipSpace chars)
  let (node, rest) ← readNode settings fuel rest
  match ← skipSpace rest with
  | [] => some (settings, node)
  | _ => none

end EntityPack.Script
