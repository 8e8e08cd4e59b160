import EntityPack.Json

/-!
# Reading JSON

A number without fraction and exponent is an integer when it fits 64 bits, signed or unsigned. Any
other number is a float, and is read in two steps that round one after the other: the leading digits
that fit 64 bits become a float, which is then scaled by a power of ten. So it may be a neighbour of
the float that is nearest to the number. A repeated field keeps its first place and takes the last
value.
-/
namespace EntityPack

structure Numeral where
  sign : Option Char
  whole : List Char
  /-- The digits after the point, if there is a point. -/
  fraction : Option (List Char)
  /-- The sign and digits after `e` or `E`, if there is one. -/
  power : Option (Option Char × List Char)
  deriving DecidableEq, Repr

namespace Numeral

def scanSign : List Char → Option Char × List Char
  | '+' :: rest => (some '+', rest)
  | '-' :: rest => (some '-', rest)
  | text => (none, text)

def scanFraction : List Char → Option (List Char) × List Char
  | '.' :: rest => (some (rest.takeWhile Char.isDigit), rest.dropWhile Char.isDigit)
  | text => (none, text)

def scanPower : List Char → Option (Option Char × List Char) × List Char
  | 'e' :: rest | 'E' :: rest =>
    let (sign, digits) := scanSign rest
    (some (sign, digits.takeWhile Char.isDigit), digits.dropWhile Char.isDigit)
  | text => (none, text)

/-- Reads the longest number shape; every part may turn out empty. -/
def scan (text : List Char) : Numeral × List Char :=
  let (sign, unsigned) := scanSign text
  let (fraction, afterPoint) := scanFraction (unsigned.dropWhile Char.isDigit)
  let (power, rest) := scanPower afterPoint
  (⟨sign, unsigned.takeWhile Char.isDigit, fraction, power⟩, rest)

def negative (n : Numeral) : Bool := n.sign == some '-'

def isInteger (n : Numeral) : Bool := n.fraction.isNone && n.power.isNone

def natOf (digits : List Char) : Nat :=
  digits.foldl (fun n c => 10 * n + (c.toNat - '0'.toNat)) 0

def toInt (n : Numeral) : Int :=
  if n.negative then -(natOf n.whole : Int) else natOf n.whole

def exponent (n : Numeral) : Int :=
  match n.power with
  | none => 0
  | some (sign, digits) => if sign == some '-' then -(natOf digits : Int) else natOf digits

/-- The coefficient of a numeral and the power of ten that it is multiplied by. Far outside
the range of floats the power is cut off, so that no huge power is computed. -/
def scientific (n : Numeral) : Nat × Int :=
  let fraction := n.fraction.getD []
  let digits := (n.whole ++ fraction).dropWhile (· == '0')
  let power := n.exponent - fraction.length
  if digits.isEmpty then (0, 0)
  else if power + digits.length > 400 then (1, 400)
  else if power + digits.length < -400 then (1, -400)
  else (natOf digits, power)

def toFloat (n : Numeral) : Float :=
  let (coefficient, exponent) := n.scientific
  let magnitude := Float.ofScientific coefficient (exponent < 0) exponent.natAbs
  if n.negative then -magnitude else magnitude

def toFloat32 (n : Numeral) : Float32 :=
  let (coefficient, exponent) := n.scientific
  let magnitude := Float32.ofScientific coefficient (exponent < 0) exponent.natAbs
  if n.negative then -magnitude else magnitude

end Numeral

namespace Json

/-- Appends digits to a coefficient as long as it fits 64 bits. Returns the digits that are
left. -/
def takeDigits (coefficient : Nat) : List Char → Nat × List Char
  | [] => (coefficient, [])
  | c :: rest =>
    let longer := 10 * coefficient + (c.toNat - '0'.toNat)
    if IntegerType.u64.holds longer then takeDigits longer rest else (coefficient, c :: rest)

/-- The coefficient of a numeral and the power of ten that it is multiplied by. Whole digits
that are left raise the power, digits of the fraction that are left do not count. -/
def leading (n : Numeral) : Nat × Int :=
  let fraction := n.fraction.getD []
  let (coefficient, raised) := takeDigits 0 n.whole
  let (coefficient, dropped) := takeDigits coefficient fraction
  (coefficient, n.exponent + raised.length + dropped.length - fraction.length)

def tenTo (power : Nat) : Float := Float.ofScientific 1 false power

def maxPower : Nat := 308

/-- Scales a float below two to the power of 64. Too large a result is refused. -/
def scale? (value : Float) (power : Int) : Option Float :=
  if 0 ≤ power then
    if value == 0 then some 0
    else if power ≤ maxPower && (value * tenTo power.toNat).isFinite then
      some (value * tenTo power.toNat)
    else none
  else
    let places := power.natAbs
    if places ≤ maxPower then some (value / tenTo places)
    else if places ≤ 2 * maxPower then
      some (value / tenTo maxPower / tenTo (places - maxPower))
    else some 0

def readFloat? (n : Numeral) : Option Float := do
  let (coefficient, power) := leading n
  let magnitude ← scale? (Float.ofNat coefficient) power
  return if n.negative then -magnitude else magnitude

/-- The value of a numeral of the JSON grammar: no plus sign in front, no superfluous zero,
digits on both sides of a point and after an exponent mark. -/
def ofNumeral? (n : Numeral) : Option Json :=
  let wholeOk := match n.whole with
    | [] => false
    | '0' :: _ :: _ => false
    | _ => true
  let fractionOk := n.fraction != some []
  let powerOk := match n.power with
    | some (_, []) => false
    | _ => true
  if n.sign == some '+' || !wholeOk || !fractionOk || !powerOk then none
  else
    let value := n.toInt
    let held := IntegerType.i64.holds value || IntegerType.u64.holds value
    if n.isInteger && !(n.negative && value == 0) && held then some (.int value)
    else (readFloat? n).map .float

def isBlank (c : Char) : Bool := c == ' ' || c == '\t' || c == '\n' || c == '\r'

def skipBlanks (text : List Char) : List Char := text.dropWhile isBlank

def hexValue? (c : Char) : Option Nat :=
  if c.isDigit then some (c.toNat - '0'.toNat)
  else if 'a' ≤ c && c ≤ 'f' then some (c.toNat - 'a'.toNat + 10)
  else if 'A' ≤ c && c ≤ 'F' then some (c.toNat - 'A'.toNat + 10)
  else none

def hexNat? (digits : List Char) : Option Nat :=
  digits.foldlM (fun n c => (hexValue? c).map (16 * n + ·)) 0

def isHighSurrogate (unit : Nat) : Bool := 0xD800 ≤ unit && unit < 0xDC00
def isLowSurrogate (unit : Nat) : Bool := 0xDC00 ≤ unit && unit < 0xE000

def ofSurrogates (high low : Nat) : Char :=
  Char.ofNat (0x10000 + (high - 0xD800) * 0x400 + (low - 0xDC00))

def unescape? : Char → Option Char
  | '"' => some '"'
  | '\\' => some '\\'
  | '/' => some '/'
  | 'b' => some '\x08'
  | 'f' => some '\x0c'
  | 'n' => some '\n'
  | 'r' => some '\r'
  | 't' => some '\t'
  | _ => none

def readText : List Char → Option (List Char × List Char)
  | [] => none
  | '"' :: rest => some ([], rest)
  | '\\' :: 'u' :: a :: b :: c :: d :: rest => do
    let unit ← hexNat? [a, b, c, d]
    if isHighSurrogate unit then
      match rest with
      | '\\' :: 'u' :: a :: b :: c :: d :: rest =>
        let low ← hexNat? [a, b, c, d]
        if isLowSurrogate low then
          let (text, rest) ← readText rest
          some (ofSurrogates unit low :: text, rest)
        else none
      | _ => none
    else if isLowSurrogate unit then none
    else
      let (text, rest) ← readText rest
      some (Char.ofNat unit :: text, rest)
  | '\\' :: e :: rest => do
    let c ← unescape? e
    let (text, rest) ← readText rest
    some (c :: text, rest)
  | c :: rest =>
    if c.toNat < 0x20 || c == '\\' then none
    else do
      let (text, rest) ← readText rest
      some (c :: text, rest)

mutual
def readValue : Nat → List Char → Option (Json × List Char)
  | 0, _ => none
  | fuel + 1, text =>
    match skipBlanks text with
    | 'n' :: 'u' :: 'l' :: 'l' :: rest => some (.null, rest)
    | 't' :: 'r' :: 'u' :: 'e' :: rest => some (.bool true, rest)
    | 'f' :: 'a' :: 'l' :: 's' :: 'e' :: rest => some (.bool false, rest)
    | '"' :: rest => do
      let (text, rest) ← readText rest
      some (.str (String.ofList text), rest)
    | '[' :: rest =>
      match skipBlanks rest with
      | ']' :: rest => some (.arr [], rest)
      | rest => do
        let (items, rest) ← readItems fuel rest
        some (.arr items, rest)
    | '\x7b' :: rest =>
      match skipBlanks rest with
      | '\x7d' :: rest => some (.obj [], rest)
      | rest => do
        let (fields, rest) ← readFields fuel rest
        some (.ofFields fields, rest)
    | rest => do
      let (numeral, rest) := Numeral.scan rest
      let value ← ofNumeral? numeral
      some (value, rest)
def readItems : Nat → List Char → Option (List Json × List Char)
  | 0, _ => none
  | fuel + 1, text => do
    let (value, rest) ← readValue fuel text
    match skipBlanks rest with
    | ',' :: rest =>
      let (values, rest) ← readItems fuel rest
      some (value :: values, rest)
    | ']' :: rest => some ([value], rest)
    | _ => none
def readFields : Nat → List Char → Option (List (String × Json) × List Char)
  | 0, _ => none
  | fuel + 1, text =>
    match skipBlanks text with
    | '"' :: rest => do
      let (key, rest) ← readText rest
      match skipBlanks rest with
      | ':' :: rest =>
        let (value, rest) ← readValue fuel rest
        match skipBlanks rest with
        | ',' :: rest =>
          let (fields, rest) ← readFields fuel rest
          some ((String.ofList key, value) :: fields, rest)
        | '\x7d' :: rest => some ([(String.ofList key, value)], rest)
        | _ => none
      | _ => none
    | _ => none
end

/-- Reads a whole text. A value is never nested deeper than its text is long. -/
def parse? (text : String) : Option Json := do
  let chars := text.toList
  let (value, rest) ← readValue (chars.length + 1) chars
  if skipBlanks rest = [] then some value else none

end Json
end EntityPack
