import EntityPack.Json
import EntityPack.Json.Reader
import EntityPack.Text

/-!
# Spaces, words, texts and numbers of scripts

Comments run to the end of the line, or between marks that nest. A word after `r#` is raw: it may
hold further characters, and it is never a constant. An escape `\xHH` stands for one byte: in a text
the bytes of a character outside ASCII are written one after the other. What a written number means
depends on the type that is asked for. A script may open with attributes that change how its values
are written.

Where the brackets of a tuple may be left out, the text alone decides whether brackets hold one
value or the items of a tuple: a comma has to stand between them, outside all nested brackets,
texts, characters and comments. A comment directly behind a text or a character is not seen as one,
so what it says counts.
-/
namespace EntityPack.Script

def isSpace (c : Char) : Bool :=
  c == ' ' || c == '\t' || c == '\n' || c == '\r' || c == '\x0b' || c == '\x0c' ||
  c == '\u0085' || c == '\u200e' || c == '\u200f' || c == '\u2028' || c == '\u2029'

inductive Gap where
  | space
  | line
  /-- A comment inside `depth` others. -/
  | block (depth : Nat)

def skip : Gap → List Char → Option (List Char)
  | .space, '/' :: '/' :: rest => skip .line rest
  | .space, '/' :: '*' :: rest => skip (.block 0) rest
  | .space, c :: rest => if isSpace c then skip .space rest else some (c :: rest)
  | .space, [] => some []
  | .line, '\n' :: rest => skip .space rest
  | .line, _ :: rest => skip .line rest
  | .line, [] => some []
  | .block 0, '*' :: '/' :: rest => skip .space rest
  | .block (depth + 1), '*' :: '/' :: rest => skip (.block depth) rest
  | .block depth, '/' :: '*' :: rest => skip (.block (depth + 1)) rest
  | .block depth, _ :: rest => skip (.block depth) rest
  | .block _, [] => none

/-- The text from the next character that counts. A comment that is not closed is an error. -/
def skipSpace (text : List Char) : Option (List Char) := skip .space text

structure Word where
  name : String
  raw : Bool := false
  deriving DecidableEq, Repr

def isWordStart (c : Char) : Bool := c == '_' || Text.isIdentifierStart c

def isRawWordChar (c : Char) : Bool :=
  Text.isIdentifierPart c || c == '.' || c == '+' || c == '-'

def startsQuoted : List Char → Bool
  | 'r' :: '"' :: _ => true
  | 'r' :: '#' :: '"' :: _ => true
  | 'r' :: '#' :: '#' :: _ => true
  | 'b' :: '"' :: _ => true
  | 'b' :: '\'' :: _ => true
  | 'b' :: 'r' :: '"' :: _ => true
  | 'b' :: 'r' :: '#' :: _ => true
  | _ => false

def readWord? (text : List Char) : Option (Word × List Char) :=
  if startsQuoted text then none
  else
    match text with
    | 'r' :: '#' :: rest =>
      let name := rest.takeWhile isRawWordChar
      if name.isEmpty then none
      else some (⟨String.ofList name, true⟩, rest.dropWhile isRawWordChar)
    | c :: rest =>
      if isWordStart c then
        some (⟨String.ofList (c :: rest.takeWhile Text.isIdentifierPart), false⟩,
          rest.dropWhile Text.isIdentifierPart)
      else none
    | [] => none

inductive Escaped where
  | byte (value : Nat)
  | char (value : Char)

def readCode? (text : List Char) : Option (Char × List Char) :=
  let digits := text.takeWhile (· != '\x7d')
  match text.dropWhile (· != '\x7d') with
  | [] => none
  | _ :: rest => do
    if digits.isEmpty || 6 < digits.length then none
    else
      let code ← Json.hexNat? digits
      if code.isValidChar then some (Char.ofNat code, rest) else none

def readEscape? : List Char → Option (Escaped × List Char)
  | '\'' :: rest => some (.byte '\''.toNat, rest)
  | '"' :: rest => some (.byte '"'.toNat, rest)
  | '\\' :: rest => some (.byte '\\'.toNat, rest)
  | 'n' :: rest => some (.byte '\n'.toNat, rest)
  | 'r' :: rest => some (.byte '\r'.toNat, rest)
  | 't' :: rest => some (.byte '\t'.toNat, rest)
  | '0' :: rest => some (.byte 0, rest)
  | 'x' :: a :: b :: rest => (Json.hexNat? [a, b]).map fun value => (.byte value, rest)
  | 'u' :: '\x7b' :: rest => (readCode? rest).map fun (c, rest) => (.char c, rest)
  | _ => none

def readBytes? : Nat → List Char → Option (List Nat × List Char)
  | 0, text => some ([], text)
  | count + 1, '\\' :: 'x' :: a :: b :: rest => do
    let byte ← Json.hexNat? [a, b]
    let (bytes, rest) ← readBytes? count rest
    some (byte :: bytes, rest)
  | _ + 1, _ => none

/-- Reads an escape of a text. A byte outside ASCII has to begin a character, and the other
bytes of the character have to follow. -/
def readTextEscape? (text : List Char) : Option (Char × List Char) := do
  match ← readEscape? text with
  | (.char c, rest) => some (c, rest)
  | (.byte lead, rest) =>
    let (bytes, rest) ← readBytes? (Text.followers lead) rest
    (Text.charOfUtf8? (lead :: bytes)).map (·, rest)

def readBytesEscape? (text : List Char) : Option (Char × List Char) := do
  match ← readEscape? text with
  | (.char c, rest) => some (c, rest)
  | (.byte value, rest) => some (Char.ofNat value, rest)

def readQuoted (escape? : List Char → Option (Char × List Char)) :
    Nat → List Char → Option (List Char × List Char)
  | 0, _ => none
  | fuel + 1, text =>
    match text with
    | '"' :: rest => some ([], rest)
    | '\\' :: rest => do
      let (c, rest) ← escape? rest
      let (text, rest) ← readQuoted escape? fuel rest
      some (c :: text, rest)
    | c :: rest => do
      let (text, rest) ← readQuoted escape? fuel rest
      some (c :: text, rest)
    | [] => none

def readRaw (hashes : Nat) : List Char → Option (List Char × List Char)
  | [] => none
  | c :: rest =>
    if c = '"' && (List.replicate hashes '#').isPrefixOf rest then
      some ([], rest.drop hashes)
    else do
      let (text, rest) ← readRaw hashes rest
      some (c :: text, rest)

def readMarkedRaw? (text : List Char) : Option (List Char × List Char) :=
  match text.dropWhile (· == '#') with
  | '"' :: rest => readRaw (text.takeWhile (· == '#')).length rest
  | _ => none

def closeQuote? {α : Type} : α × List Char → Option (α × List Char)
  | (value, '\'' :: rest) => some (value, rest)
  | _ => none

/-- Reads a character after its opening quote. Its escapes stand for characters, so a single
byte has to be ASCII. -/
def readChar? : List Char → Option (Char × List Char)
  | '\\' :: rest => do
    match ← readEscape? rest with
    | (.char c, rest) => closeQuote? (c, rest)
    | (.byte value, rest) => if value < 0x80 then closeQuote? (Char.ofNat value, rest) else none
  | c :: rest => closeQuote? (c, rest)
  | [] => none

def readByte? : List Char → Option (Nat × List Char)
  | '\\' :: rest => do
    match ← readEscape? rest with
    | (.char _, _) => none
    | (.byte value, rest) => closeQuote? (value, rest)
  | c :: rest => if c.toNat < 0x80 then closeQuote? (c.toNat, rest) else none
  | [] => none

inductive FloatType where
  | f32
  | f64
  deriving DecidableEq, Repr

def isNumberStart (c : Char) : Bool := c.isDigit || c == '+' || c == '-' || c == '.'

def isNumberChar (c : Char) : Bool :=
  c.isAlphanum || c == '_' || c == '.' || c == '+' || c == '-'

def isIntegerChar (c : Char) : Bool := (Json.hexValue? c).isSome || c == '_'

def isFloatChar (c : Char) : Bool :=
  c.isDigit || c == 'e' || c == 'E' || c == '.' || c == '+' || c == '-' || c == '_'

def splitBase : List Char → Nat × List Char
  | '0' :: 'x' :: digits => (16, digits)
  | '0' :: 'b' :: digits => (2, digits)
  | '0' :: 'o' :: digits => (8, digits)
  | digits => (10, digits)

def digitsValue? (base : Nat) (digits : List Char) : Option Nat :=
  (digits.filter (· != '_')).foldlM (fun n c => do
    let digit ← Json.hexValue? c
    if digit < base then some (base * n + digit) else none) 0

/-- The value of an integer and the type that is written behind it, if one is. Only decimal
and binary integers can have a type: the letter of another base ends the number that a type
is looked for behind. -/
def integer? (written : List Char) : Option (Int × Option IntegerType) := do
  let (sign, unsigned) := Numeral.scanSign written
  let (base, body) := splitBase unsigned
  let digits := body.takeWhile isIntegerChar
  let type := String.ofList (body.dropWhile isIntegerChar)
  match digits with
  | [] => none
  | '_' :: _ => none
  | digits =>
    let magnitude ← digitsValue? base digits
    let value : Int := if sign == some '-' then -(magnitude : Int) else magnitude
    if type.isEmpty then some (value, none)
    else if base = 10 || base = 2 then
      let type ← IntegerType.ofName? type
      if type.holds value then some (value, some type) else none
    else none

/-- Takes out underscores. One may follow a digit or the exponent mark, or another one. -/
def dropUnderscores : (allowed : Bool) → List Char → Option (List Char)
  | _, [] => some []
  | true, '_' :: rest => dropUnderscores true rest
  | false, '_' :: _ => none
  | allowed, c :: rest =>
    let allowed := c.isDigit || c == 'e' || c == 'E' || (allowed && c != '.')
    (dropUnderscores allowed rest).map (c :: ·)

def floatWord? : String → Option (Float × Option FloatType)
  | "inf" => some (1.0 / 0.0, none)
  | "inff32" => some (1.0 / 0.0, some .f32)
  | "inff64" => some (1.0 / 0.0, some .f64)
  | "NaN" => some (0.0 / 0.0, none)
  | "NaNf32" => some (0.0 / 0.0, some .f32)
  | "NaNf64" => some (0.0 / 0.0, some .f64)
  | _ => none

/-- The digits of a float as a numeral. They may be missing on one side of the point. -/
def floatNumeral? (digits : List Char) : Option Numeral := do
  let (numeral, rest) := Numeral.scan (← dropUnderscores false digits)
  let somewhere := !(numeral.whole.isEmpty && (numeral.fraction.getD []).isEmpty)
  let powered := match numeral.power with
    | some (_, []) => false
    | _ => true
  if rest.isEmpty && somewhere && powered then some numeral else none

def float? (written : List Char) : Option (Float × Option FloatType) :=
  let (sign, unsigned) := Numeral.scanSign written
  match floatWord? (String.ofList unsigned) with
  | some (value, type) => some (if sign == some '-' then -value else value, type)
  | none => do
    let numeral ← floatNumeral? (written.takeWhile isFloatChar)
    match String.ofList (written.dropWhile isFloatChar) with
    | "" => some (numeral.toFloat, none)
    | "f32" => some (numeral.toFloat32.toFloat, some .f32)
    | "f64" => some (numeral.toFloat, some .f64)
    | _ => none

/-- The value of a number of unknown type. Integers that fit no width are floats. -/
def anyNumber? (written : List Char) : Option Json :=
  let unsigned := (Numeral.scanSign written).2
  let asFloat := (float? written).map fun (value, _) => Json.ofFloat value
  if (unsigned.takeWhile isIntegerChar).length < (unsigned.takeWhile isFloatChar).length then
    asFloat
  else
    match integer? written with
    | some (value, _) =>
      if IntegerType.i64.holds value || IntegerType.u64.holds value then some (.int value)
      else asFloat
    | none => asFloat

structure Settings where
  /-- Optional fields may be written without the mark of a present value. -/
  implicitSome : Bool := false
  /-- The value inside the mark of a present value may be written without its own brackets. -/
  unwrapPayloads : Bool := false
  /-- Records have to be written with their names. -/
  explicitNames : Bool := false
  deriving DecidableEq, Repr

/-- Turns on a setting. One of them concerns a form that scripts do not have. -/
def Settings.enable? (s : Settings) : String → Option Settings
  | "implicit_some" => some { s with implicitSome := true }
  | "unwrap_variant_newtypes" => some { s with unwrapPayloads := true }
  | "explicit_struct_names" => some { s with explicitNames := true }
  | "unwrap_newtypes" => some s
  | _ => none

def readMarks : List (List Char) → List Char → Option (List Char)
  | [], text => some text
  | mark :: marks, text =>
    if mark.isPrefixOf text then do readMarks marks (← skipSpace (text.drop mark.length))
    else none

def readSettings : Nat → Settings → List Char → Option (Settings × List Char)
  | 0, _, _ => none
  | fuel + 1, s, text => do
    let (word, rest) ← readWord? text
    let s ← s.enable? word.name
    match ← skipSpace rest with
    | ',' :: rest =>
      match ← skipSpace rest with
      | ')' :: rest => some (s, rest)
      | rest => readSettings fuel s rest
    | ')' :: rest => some (s, rest)
    | _ => none

def readAttributes : Nat → Settings → List Char → Option (Settings × List Char)
  | 0, _, _ => none
  | fuel + 1, s, text =>
    match text with
    | '#' :: _ => do
      let rest ← readMarks [['#'], ['!'], ['['], "enable".toList, ['(']] text
      let (s, rest) ← readSettings fuel s rest
      let rest ← readMarks [[']']] (← skipSpace rest)
      readAttributes fuel s rest
    | _ => some (s, text)

def isClosed : List Char → Bool
  | '\\' :: _ :: rest => isClosed rest
  | '"' :: _ => true
  | _ :: rest => isClosed rest
  | [] => false

def passChar (text : List Char) : List Char :=
  match text with
  | '\'' :: rest => ((readChar? rest).map (·.2)).getD text
  | _ => text

/-- Goes behind a text in quotes. A malformed one is not passed over, and one that is not
closed is an error. -/
def passQuoted? (escape? : List Char → Option (Char × List Char)) (fuel : Nat)
    (text inner : List Char) : Option (List Char) :=
  match readQuoted escape? fuel inner with
  | some (_, rest) => some rest
  | none => if isClosed inner then some text else none

def passRaw? (text marked : List Char) : Option (List Char) :=
  match readMarkedRaw? marked with
  | some (_, rest) => some rest
  | none => if (marked.dropWhile (· == '#')).head? == some '"' then none else some text

def passText? (fuel : Nat) (text : List Char) : Option (List Char) :=
  match text with
  | '"' :: inner => passQuoted? readTextEscape? fuel text inner
  | 'r' :: marked => passRaw? text marked
  | _ => some text

def passBytes? (fuel : Nat) (text : List Char) : Option (List Char) :=
  match text with
  | 'b' :: '"' :: inner => passQuoted? readBytesEscape? fuel text inner
  | 'b' :: 'r' :: marked => passRaw? text marked
  | _ => some text

/-- Skips spaces and comments. A slash that opens no comment is an error. -/
def skipClean? (text : List Char) : Option (List Char) :=
  match skipSpace text with
  | some ('/' :: _) => none
  | rest => rest

def followsItem? (text : List Char) : Option Bool :=
  (skipClean? text).map fun rest => rest.head? != some ')'

/-- Whether a comma and an item come before the closing bracket, inside `depth` nested
brackets; every step uses up fuel. -/
def findItem? : Nat → Nat → List Char → Option Bool
  | 0, _, _ => none
  | fuel + 1, depth, text => do
    match ← passBytes? fuel (← passText? fuel (passChar (← skipClean? text))) with
    | [] => none
    | c :: rest =>
      if c == '(' || c == '[' || c == '\x7b' then findItem? fuel (depth + 1) rest
      else if c == ')' || c == ']' || c == '\x7d' then
        if depth = 0 then some false else findItem? fuel (depth - 1) rest
      else if c == ',' && depth == 0 then followsItem? rest
      else findItem? fuel depth rest

def isTuple? (fuel : Nat) (text : List Char) : Option Bool := do
  let text ← skipClean? text
  match readWord? text with
  | some (_, rest) => findItem? fuel 0 rest
  | none => findItem? fuel 0 text

end EntityPack.Script
