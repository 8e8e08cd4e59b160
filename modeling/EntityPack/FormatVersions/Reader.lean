import EntityPack.Entity
import EntityPack.Toml

/-!
# Format versions from a settings file

A settings file is read line by line. Each version is a text at the top of the file. Other settings
are passed over.
-/
namespace EntityPack

namespace Toml

def isInlineSpace (c : Char) : Bool := c == ' ' || c == '\t'

def skipInline (text : List Char) : List Char := text.dropWhile isInlineSpace

def skipComment : List Char → Option (List Char)
  | '#' :: rest =>
    match rest.dropWhile isPrintable with
    | [] => some []
    | '\n' :: rest => some ('\n' :: rest)
    | '\r' :: '\n' :: rest => some ('\n' :: rest)
    | _ => none
  | text => some text

/-- Skips spaces, line ends and comments; a comment ends with its line. -/
def skipLines (comment : Bool) : List Char → Option (List Char)
  | '\n' :: rest => skipLines false rest
  | '\r' :: '\n' :: rest => skipLines false rest
  | c :: rest =>
    if comment then (if isPrintable c then skipLines true rest else none)
    else if c = '#' then skipLines true rest
    else if isInlineSpace c then skipLines false rest
    else some (c :: rest)
  | [] => some []

def skipBetween (text : List Char) : Option (List Char) := skipLines false text

def finishLine (text : List Char) : Option (List Char) := do
  match ← skipComment (skipInline text) with
  | [] => some []
  | '\n' :: rest => some rest
  | '\r' :: '\n' :: rest => some rest
  | _ => none

def isBareKeyChar (c : Char) : Bool := c.isAlphanum || c == '_' || c == '-'

/-- Reads one name of a key. Names are not written over several lines. -/
def readName? (text : List Char) : Option (String × List Char) :=
  match text with
  | '"' :: '"' :: '"' :: _ => none
  | '\'' :: '\'' :: '\'' :: _ => none
  | '"' :: _ => readText? text
  | '\'' :: _ => readText? text
  | text =>
    let name := text.takeWhile isBareKeyChar
    if name.isEmpty then none else some (String.ofList name, text.dropWhile isBareKeyChar)

/-- How many names a key may have, and how many brackets may be open in a value. -/
def maxDepth : Nat := 80

def readNames : (count : Nat) → List Char → Option (List String × List Char)
  | 0, _ => none
  | count + 1, text => do
    let (name, rest) ← readName? (skipInline text)
    match skipInline rest with
    | '.' :: rest =>
      let (names, rest) ← readNames count rest
      some (name :: names, rest)
    | rest => some ([name], rest)

def readKey (text : List Char) : Option (List String × List Char) := readNames maxDepth text

def splitKey (names : List String) : Option (List String × String) :=
  names.getLast?.map fun key => (names.dropLast, key)

def isWordChar (c : Char) : Bool :=
  c.isAlphanum || c == '_' || c == '-' || c == '+' || c == '.' || c == ':'

/-- Reads a scalar. A date and its time may be parted by a space. -/
def readScalar (text : List Char) : Option (List Char) :=
  let word := text.takeWhile isWordChar
  let rest := text.dropWhile isWordChar
  match date? word, rest with
  | some [], ' ' :: more =>
    let time := more.takeWhile isWordChar
    match time with
    | c :: _ =>
      if c.isDigit then
        if isMoment (word ++ ' ' :: time) then some (more.dropWhile isWordChar) else none
      else some rest
    | [] => some rest
  | _, _ => if isScalar word then some rest else none

mutual
/-- Reads a value with at most `depth` brackets in each other; every value uses up fuel. -/
def readValue : Nat → (depth : Nat) → List Char → Option (Setting × List Char)
  | 0, _, _ => none
  | fuel + 1, depth, text =>
    match text, depth with
    | '"' :: _, _ | '\'' :: _, _ => (readText? text).map fun (value, rest) => (.text value, rest)
    | '[' :: rest, depth + 1 => do
      let rest ← readArray fuel depth (← skipBetween rest)
      some (.other, rest)
    | '\x7b' :: rest, depth + 1 => do
      let rest ← readInline fuel depth [] (← skipBetween rest)
      some (.other, rest)
    | text, _ => (readScalar text).map (.other, ·)
def readArray : Nat → (depth : Nat) → List Char → Option (List Char)
  | 0, _, _ => none
  | fuel + 1, depth, text =>
    match text with
    | ']' :: rest => some rest
    | text => do
      let (_, rest) ← readValue fuel depth text
      match ← skipBetween rest with
      | ',' :: rest => readArray fuel depth (← skipBetween rest)
      | ']' :: rest => some rest
      | _ => none
def readInline : Nat → (depth : Nat) → Table → List Char → Option (List Char)
  | 0, _, _, _ => none
  | fuel + 1, depth, table, text =>
    match text with
    | '\x7d' :: rest => some rest
    | text => do
      let (names, rest) ← readKey text
      match ← skipBetween rest with
      | '=' :: rest =>
        let (value, rest) ← readValue fuel depth (← skipBetween rest)
        let (path, key) ← splitKey names
        let table ← table.put path key value
        match ← skipBetween rest with
        | ',' :: rest => readInline fuel depth table (← skipBetween rest)
        | '\x7d' :: rest => some rest
        | _ => none
      | _ => none
end

structure Position where
  document : Table := []
  path : List String := []

def readHeader (p : Position) (listed : Bool) (text : List Char) :
    Option (Position × List Char) := do
  let (names, rest) ← readKey text
  let (path, key) ← splitKey names
  let opening := if listed then Table.openListed key else Table.openTable key
  let document ← p.document.below path opening
  match listed, rest with
  | true, ']' :: ']' :: rest => some (⟨document, names⟩, rest)
  | false, ']' :: rest => some (⟨document, names⟩, rest)
  | _, _ => none

def readEntry (p : Position) (text : List Char) : Option (Position × List Char) := do
  let (names, rest) ← readKey text
  match rest with
  | '=' :: rest =>
    let rest := skipInline rest
    let (value, rest) ← readValue (rest.length + 1) maxDepth rest
    let (path, key) ← splitKey names
    let document ← p.document.below p.path (Table.put path key value)
    some ({ p with document }, rest)
  | _ => none

def readStatements : Nat → Position → List Char → Option Table
  | 0, _, _ => none
  | fuel + 1, p, text =>
    match skipInline text with
    | [] => some p.document
    | '\n' :: rest => readStatements fuel p rest
    | '\r' :: '\n' :: rest => readStatements fuel p rest
    | '#' :: rest => do readStatements fuel p (← finishLine ('#' :: rest))
    | '[' :: '[' :: rest => do
      let (p, rest) ← readHeader p true rest
      readStatements fuel p (← finishLine rest)
    | '[' :: rest => do
      let (p, rest) ← readHeader p false rest
      readStatements fuel p (← finishLine rest)
    | text => do
      let (p, rest) ← readEntry p text
      readStatements fuel p (← finishLine rest)

/-- Reads a whole settings file. A byte order mark in front is skipped. -/
def parse? (text : String) : Option Table :=
  let chars := match text.toList with
    | '\ufeff' :: rest => rest
    | chars => chars
  readStatements (chars.length + 1) {} chars

end Toml

namespace FormatVersions

def setting (table : Toml.Table) (key : String) (default : String) : Option String :=
  match Entries.get? key table with
  | some (.text value) => some value
  | some _ => none
  | none => some default

def ofTable? (table : Toml.Table) : Option FormatVersions := do
  let bare : FormatVersions := {}
  return { behavior := ← setting table "behavior_format_version" bare.behavior
           resource := ← setting table "resource_format_version" bare.resource
           controller := ← setting table "controller_format_version" bare.controller
           animation := ← setting table "animation_format_version" bare.animation
           item := ← setting table "item_format_version" bare.item }

def parse? (text : String) : Option FormatVersions := do ofTable? (← Toml.parse? text)

end FormatVersions
end EntityPack
