import EntityPack.Json
import EntityPack.Json.Reader

/-!
# Tables and values of settings files

A table is opened by a header, by the path of a header below it, or by a dotted key. A name is given
once; headers may open a table again only if no header opened it before. Dotted keys write only into
tables that dotted keys opened; on their way there they pass through tables that no header opened,
and through the last of a list of tables.

Basic texts know escapes, literal ones do not; both may run over several lines between tripled
quotes. Of numbers, truth values, dates and times only the form is checked: the settings in use are
texts.
-/
namespace EntityPack.Toml

inductive Opening where
  | implied
  | header
  | dotted
  deriving DecidableEq, Repr

inductive Setting where
  | text (value : String)
  /-- A number, truth value, moment, array or inline table. -/
  | other
  | table (opening : Opening) (entries : List (String × Setting))
  /-- A list of tables. Only the last one can still grow. -/
  | tables (last : List (String × Setting))
  deriving Inhabited

abbrev Table := List (String × Setting)

namespace Table

def put (path : List String) (key : String) (value : Setting) (table : Table) : Option Table :=
  match path with
  | [] =>
    match Entries.get? key table with
    | some _ => none
    | none => some (table ++ [(key, value)])
  | name :: path =>
    match Entries.get? name table with
    | none => (put path key value []).map fun inner => table ++ [(name, .table .dotted inner)]
    | some (.table .dotted inner) =>
      (put path key value inner).map fun inner =>
        Entries.insert name (.table .dotted inner) table
    | some (.table .implied inner) =>
      if path.isEmpty then none
      else (put path key value inner).map fun inner =>
        Entries.insert name (.table .implied inner) table
    | some (.tables last) =>
      if path.isEmpty then none
      else (put path key value last).map fun last =>
        Entries.insert name (.tables last) table
    | some _ => none

/-- Changes the table at a header's path; tables on the way are opened if they are missing. -/
def below (path : List String) (f : Table → Option Table) (table : Table) : Option Table :=
  match path with
  | [] => f table
  | name :: path =>
    match Entries.get? name table with
    | none => (below path f []).map fun inner => table ++ [(name, .table .implied inner)]
    | some (.table opening inner) =>
      (below path f inner).map fun inner => Entries.insert name (.table opening inner) table
    | some (.tables last) =>
      (below path f last).map fun last => Entries.insert name (.tables last) table
    | some _ => none

def openTable (key : String) (table : Table) : Option Table :=
  match Entries.get? key table with
  | none => some (table ++ [(key, .table .header [])])
  | some (.table .implied inner) => some (Entries.insert key (.table .header inner) table)
  | some _ => none

def openListed (key : String) (table : Table) : Option Table :=
  match Entries.get? key table with
  | none => some (table ++ [(key, .tables [])])
  | some (.tables _) => some (Entries.insert key (.tables []) table)
  | some _ => none

end Table

def isPrintable (c : Char) : Bool := (0x20 ≤ c.toNat || c == '\t') && c.toNat != 0x7F

def skipFolded : List Char → List Char
  | ' ' :: rest => skipFolded rest
  | '\t' :: rest => skipFolded rest
  | '\n' :: rest => skipFolded rest
  | '\r' :: '\n' :: rest => skipFolded rest
  | text => text

def endsLine : List Char → Bool
  | ' ' :: rest => endsLine rest
  | '\t' :: rest => endsLine rest
  | '\n' :: _ => true
  | '\r' :: '\n' :: _ => true
  | _ => false

def charOfCode? (digits : List Char) : Option Char := do
  let code ← Json.hexNat? digits
  if code.isValidChar then some (Char.ofNat code) else none

def readEscape? : List Char → Option (Char × List Char)
  | 'b' :: rest => some ('\x08', rest)
  | 't' :: rest => some ('\t', rest)
  | 'n' :: rest => some ('\n', rest)
  | 'f' :: rest => some ('\x0c', rest)
  | 'r' :: rest => some ('\r', rest)
  | 'e' :: rest => some ('\x1b', rest)
  | '"' :: rest => some ('"', rest)
  | '\\' :: rest => some ('\\', rest)
  | 'x' :: a :: b :: rest => (charOfCode? [a, b]).map (·, rest)
  | 'u' :: a :: b :: c :: d :: rest => (charOfCode? [a, b, c, d]).map (·, rest)
  | 'U' :: a :: b :: c :: d :: e :: f :: g :: h :: rest =>
    (charOfCode? [a, b, c, d, e, f, g, h]).map (·, rest)
  | _ => none

def readBasic : Nat → List Char → Option (List Char × List Char)
  | 0, _ => none
  | fuel + 1, text =>
    match text with
    | '"' :: rest => some ([], rest)
    | '\\' :: rest => do
      let (c, rest) ← readEscape? rest
      let (text, rest) ← readBasic fuel rest
      some (c :: text, rest)
    | c :: rest =>
      if isPrintable c then do
        let (text, rest) ← readBasic fuel rest
        some (c :: text, rest)
      else none
    | [] => none

def readLiteral : List Char → Option (List Char × List Char)
  | [] => none
  | c :: rest =>
    if c = '\'' then some ([], rest)
    else if isPrintable c then do
      let (text, rest) ← readLiteral rest
      some (c :: text, rest)
    else none

/-- Reads a text of several lines up to three of its quotes. Up to two further quotes in
front of those belong to the text. -/
def readLines (quote : Char) : Nat → List Char → Option (List Char × List Char)
  | 0, _ => none
  | fuel + 1, text =>
    let quotes := (text.takeWhile (· == quote)).length
    if 3 ≤ quotes then
      if quotes ≤ 5 then some (List.replicate (quotes - 3) quote, text.drop quotes) else none
    else
      match text with
      | '\\' :: rest =>
        if quote = '"' then
          if endsLine rest then readLines quote fuel (skipFolded rest)
          else do
            let (c, rest) ← readEscape? rest
            let (text, rest) ← readLines quote fuel rest
            some (c :: text, rest)
        else do
          let (text, rest) ← readLines quote fuel rest
          some ('\\' :: text, rest)
      | '\r' :: '\n' :: rest => do
        let (text, rest) ← readLines quote fuel rest
        some ('\r' :: '\n' :: text, rest)
      | c :: rest =>
        if isPrintable c || c == '\n' then do
          let (text, rest) ← readLines quote fuel rest
          some (c :: text, rest)
        else none
      | [] => none

/-- A line end right after the opening quotes does not belong to the text. -/
def dropFirstLineEnd : List Char → List Char
  | '\n' :: rest => rest
  | '\r' :: '\n' :: rest => rest
  | text => text

def readText? (text : List Char) : Option (String × List Char) :=
  let done (result : Option (List Char × List Char)) :=
    result.map fun (text, rest) => (String.ofList text, rest)
  match text with
  | '"' :: '"' :: '"' :: rest => done (readLines '"' (rest.length + 1) (dropFirstLineEnd rest))
  | '\'' :: '\'' :: '\'' :: rest =>
    done (readLines '\'' (rest.length + 1) (dropFirstLineEnd rest))
  | '"' :: rest => done (readBasic (rest.length + 1) rest)
  | '\'' :: rest => done (readLiteral rest)
  | _ => none

def isDigitRun (isDigit : Char → Bool) : List Char → Bool
  | [] => false
  | [c] => isDigit c
  | c :: '_' :: rest => isDigit c && isDigitRun isDigit rest
  | c :: rest => isDigit c && isDigitRun isDigit rest

def dropSign : List Char → List Char
  | '+' :: rest => rest
  | '-' :: rest => rest
  | text => text

def isDecimal : List Char → Bool
  | '0' :: _ :: _ => false
  | digits => isDigitRun Char.isDigit digits

def digitsValue? (base : Nat) (digits : List Char) : Option Nat :=
  let digit? (c : Char) := (Json.hexValue? c).filter (· < base)
  if isDigitRun (fun c => (digit? c).isSome) digits then
    some (digits.foldl (fun n c => ((digit? c).map (base * n + ·)).getD n) 0)
  else none

def integer? (word : List Char) : Option Int :=
  match word with
  | '0' :: 'x' :: digits => (digitsValue? 16 digits).map Int.ofNat
  | '0' :: 'o' :: digits => (digitsValue? 8 digits).map Int.ofNat
  | '0' :: 'b' :: digits => (digitsValue? 2 digits).map Int.ofNat
  | word =>
    if isDecimal (dropSign word) then
      (digitsValue? 10 (dropSign word)).map fun value =>
        if word.head? == some '-' then -(value : Int) else value
    else none

def isHeld (value : Int) : Bool :=
  -170141183460469231731687303715884105728 ≤ value &&
  value ≤ 340282366920938463463374607431768211455

def isInteger (word : List Char) : Bool := (integer? word).any isHeld

def isFraction (unsigned : List Char) : Bool :=
  let isPart (c : Char) := c.isDigit || c == '_'
  let powerOk : List Char → Bool
    | 'e' :: rest | 'E' :: rest => isDigitRun Char.isDigit (dropSign rest)
    | rest => rest.isEmpty
  isDecimal (unsigned.takeWhile isPart) &&
  match unsigned.dropWhile isPart with
  | '.' :: rest =>
    isDigitRun Char.isDigit (rest.takeWhile isPart) && powerOk (rest.dropWhile isPart)
  | [] => false
  | rest => powerOk rest

/-- Infinity has to be written as such: a number that is too large for a float is refused. -/
def isFloat (word : List Char) : Bool :=
  let unsigned := dropSign word
  unsigned = "inf".toList || unsigned = "nan".toList ||
  (isFraction unsigned && (Numeral.scan (unsigned.filter (· != '_'))).1.toFloat.isFinite)

def digits? (count : Nat) (text : List Char) : Option (Nat × List Char) :=
  let digits := text.take count
  if digits.length = count && digits.all Char.isDigit then
    some (Numeral.natOf digits, text.drop count)
  else none

def isLeap (year : Nat) : Bool := year % 4 == 0 && (year % 100 != 0 || year % 400 == 0)

def daysIn (year month : Nat) : Nat :=
  if month = 2 then (if isLeap year then 29 else 28)
  else if month = 4 || month = 6 || month = 9 || month = 11 then 30
  else 31

def date? (text : List Char) : Option (List Char) := do
  match ← digits? 4 text with
  | (year, '-' :: rest) =>
    match ← digits? 2 rest with
    | (month, '-' :: rest) =>
      let (day, rest) ← digits? 2 rest
      if 1 ≤ month && month ≤ 12 && 1 ≤ day && day ≤ daysIn year month then some rest else none
    | _ => none
  | _ => none

def time? (text : List Char) : Option (List Char) := do
  match ← digits? 2 text with
  | (hour, ':' :: rest) =>
    let (minute, rest) ← digits? 2 rest
    if hour ≤ 23 && minute ≤ 59 then
      match rest with
      | ':' :: rest =>
        let (second, rest) ← digits? 2 rest
        if second ≤ 60 then
          match rest with
          | '.' :: rest =>
            match rest with
            | c :: _ => if c.isDigit then some (rest.dropWhile Char.isDigit) else none
            | [] => none
          | rest => some rest
        else none
      | rest => some rest
    else none
  | _ => none

def isOffset : List Char → Bool
  | [] => true
  | ['Z'] => true
  | ['z'] => true
  | c :: rest =>
    (c == '+' || c == '-') &&
    match digits? 2 rest with
    | some (hour, ':' :: rest) =>
      match digits? 2 rest with
      | some (minute, []) => hour ≤ 23 && minute ≤ 59
      | _ => false
    | _ => false

def isMoment (word : List Char) : Bool :=
  match date? word with
  | some [] => true
  | some (c :: rest) =>
    (c == 'T' || c == 't' || c == ' ') &&
    match time? rest with
    | some rest => isOffset rest
    | none => false
  | none => time? word == some []

def isScalar (word : List Char) : Bool :=
  word = "true".toList || word = "false".toList || isInteger word || isFloat word ||
  isMoment word

end EntityPack.Toml
