import EntityPack.Json

/-!
# Printing JSON

Compact text: no spaces, fields in order, and only what must be escaped is escaped. Floats are
written with the fewest digits that read back. The reals that round to a float form an interval
around it. On the decimal grids `10 ^ k`, from coarse to fine, the first grid with a point in that
interval gives these digits; of two such points the nearer one is taken.
-/
namespace EntityPack

structure Decimal where
  coefficient : Nat
  exponent : Int
  deriving DecidableEq, Repr

structure Binary where
  mantissa : Nat
  exponent : Int
  deriving DecidableEq, Repr

namespace Binary

/-- The mantissa of powers of two, which is the least but for the smallest floats. -/
def leadingBit : Nat := 0x10000000000000

def ofFloat (value : Float) : Binary :=
  let bits := value.toBits.toNat
  let fraction := bits % leadingBit
  let field := bits / leadingBit % 0x800
  if field = 0 then ⟨fraction, -1074⟩ else ⟨leadingBit + fraction, (field : Int) - 1075⟩

/-- The interval that rounds to the float, in quarters of its last place. The gap below a
power of two is half as wide. -/
def lower (b : Binary) : Nat :=
  if b.mantissa = leadingBit ∧ b.exponent > -1074 then 4 * b.mantissa - 1 else 4 * b.mantissa - 2

def upper (b : Binary) : Nat := 4 * b.mantissa + 2

def steps (b : Binary) (k : Int) : Nat × Nat :=
  let q := b.exponent - 2
  (Nat.pow 10 k.toNat * Nat.pow 2 (-q).toNat, Nat.pow 2 q.toNat * Nat.pow 10 (-k).toNat)

/-- Whether the grid point `point` lies in the interval; its ends count when the mantissa
is even. -/
def covers (b : Binary) (grid quarter point : Nat) : Bool :=
  let position := point * grid
  let low := b.lower * quarter
  let high := b.upper * quarter
  if b.mantissa % 2 = 0 then low ≤ position && position ≤ high
  else low < position && position < high

/-- The best point of the grid `10 ^ k`, if the interval holds one. `tieUp` decides between
two points at the same distance: upward, else to the even one. -/
def point? (b : Binary) (tieUp : Bool) (k : Int) : Option Nat :=
  let (grid, quarter) := b.steps k
  let value := 4 * b.mantissa * quarter
  let below := value / grid
  let twice := 2 * (value - below * grid)
  let fitsBelow := below ≠ 0 && b.covers grid quarter below
  let fitsAbove := b.covers grid quarter (below + 1)
  if fitsBelow && fitsAbove then
    if twice < grid then some below
    else if grid < twice then some (below + 1)
    else if tieUp || below % 2 = 1 then some (below + 1)
    else some below
  else if fitsBelow then some below
  else if fitsAbove then some (below + 1)
  else none

def search (b : Binary) (tieUp : Bool) : Nat → Int → Decimal
  | 0, k => ⟨0, k⟩
  | fuel + 1, k =>
    match b.point? tieUp k with
    | some point => ⟨point, k⟩
    | none => b.search tieUp fuel (k - 1)

/-- The shortest decimal that reads back as the float. Seventeen digits always suffice, and
the first grid tried lies at most three places above the leading digit. -/
def shortest (b : Binary) (tieUp : Bool) : Decimal :=
  if b.mantissa = 0 then ⟨0, 0⟩
  else b.search tieUp 24 (((Nat.log2 b.mantissa : Int) + b.exponent) * 30103 / 100000 + 2)

end Binary

structure Layout where
  /-- The least and the greatest decimal exponent that is written positionally. -/
  least : Int
  most : Int
  /-- Written between the mark and an exponent that is not negative. -/
  plus : String
  /-- Whether an exact tie between two shortest decimals goes upward. -/
  tieUp : Bool
  deriving DecidableEq, Repr

namespace Layout

/-- Numbers in documents: `0.00001`, `1e-6`, `1e+16`. -/
def document : Layout := ⟨-5, 15, "+", false⟩

/-- Labels: `0.0001`, `1e-5`, `1e16`. -/
def label : Layout := ⟨-4, 15, "", true⟩

def zeros (count : Nat) : String := String.ofList (List.replicate count '0')

def positional (d : Decimal) : String :=
  let digits := toString d.coefficient
  if 0 ≤ d.exponent then digits ++ zeros d.exponent.toNat ++ ".0"
  else
    let places := (-d.exponent).toNat
    if places < digits.length then
      let whole := digits.length - places
      String.ofList (digits.toList.take whole) ++ "." ++ String.ofList (digits.toList.drop whole)
    else "0." ++ zeros (places - digits.length) ++ digits

def scientific (layout : Layout) (d : Decimal) (leading : Int) : String :=
  let digits := (toString d.coefficient).toList
  let mantissa := match digits with
    | [] => ""
    | [digit] => digit.toString
    | digit :: rest => digit.toString ++ "." ++ String.ofList rest
  mantissa ++ "e" ++ (if leading < 0 then "" else layout.plus) ++ toString leading

def writeDecimal (layout : Layout) (d : Decimal) : String :=
  if d.coefficient = 0 then "0.0"
  else
    let leading := d.exponent + ((toString d.coefficient).length - 1 : Nat)
    if layout.least ≤ leading && leading ≤ layout.most then positional d
    else layout.scientific d leading

def write (layout : Layout) (value : Float) : String :=
  if value.isNaN then "NaN"
  else
    let sign := if 0x8000000000000000 ≤ value.toBits then "-" else ""
    if value.isInf then sign ++ "inf"
    else sign ++ layout.writeDecimal ((Binary.ofFloat value).shortest layout.tieUp)

end Layout

namespace Json

def hexDigit (n : Nat) : Char := (Nat.digitChar (n % 16))

def escape (c : Char) : List Char :=
  match c with
  | '"' => ['\\', '"']
  | '\\' => ['\\', '\\']
  | '\n' => ['\\', 'n']
  | '\r' => ['\\', 'r']
  | '\t' => ['\\', 't']
  | '\x08' => ['\\', 'b']
  | '\x0c' => ['\\', 'f']
  | c =>
    if c.toNat < 0x20 then ['\\', 'u', '0', '0', hexDigit (c.toNat / 16), hexDigit c.toNat]
    else [c]

def quote (text : String) : String :=
  "\"" ++ String.ofList (text.toList.flatMap escape) ++ "\""

def renderFloat (value : Float) : String :=
  if value.isFinite then Layout.document.write value else "null"

mutual
def render : Json → String
  | .null => "null"
  | .bool value => if value then "true" else "false"
  | .int value => toString value
  | .float value => renderFloat value
  | .str text => quote text
  | .arr items => "[" ++ String.intercalate "," (renderItems items) ++ "]"
  | .obj fields => "\x7b" ++ String.intercalate "," (renderFields fields) ++ "\x7d"
def renderItems : List Json → List String
  | [] => []
  | value :: rest => value.render :: renderItems rest
def renderFields : List (String × Json) → List String
  | [] => []
  | (key, value) :: rest => (quote key ++ ":" ++ value.render) :: renderFields rest
end

end Json
end EntityPack
