import EntityPack.Text.CaseTable
import EntityPack.Text.HiddenTable
import EntityPack.Text.IdentifierTable
import EntityPack.Text.WordTable

/-!
# Characters and texts

Character classes are core's for ASCII and come from tables for the rest. Lower casing is full: a
capital sigma that ends a word becomes the final small sigma, and the dotted capital I becomes two
characters. A plain pattern is replaced wherever it stands, a token only where the word boundaries
it asks for are present.
-/
namespace EntityPack.Text

def inRanges (ranges : List (Nat × Nat)) (code : Nat) : Bool :=
  ranges.any fun range => range.1 ≤ code && code ≤ range.2

/-- Characters that words are made of; a word boundary lies between one that is and one
that is not. -/
def isWord (c : Char) : Bool :=
  if c.toNat < 128 then c.isAlphanum || c == '_' else inRanges wordRanges c.toNat

/-- Letters and numbers of every kind. Unlike `isWord` it holds of superscripts and
fractions and fails for marks and connectors. -/
def isAlphanumeric (c : Char) : Bool :=
  if c.toNat < 128 then c.isAlphanum else inRanges alphanumericRanges c.toNat

def isHidden (c : Char) : Bool :=
  if c.toNat < 128 then c.toNat < 0x20 || c.toNat = 0x7F else inRanges hiddenRanges c.toNat

def isIdentifierStart (c : Char) : Bool :=
  if c.toNat < 128 then c.isAlpha else inRanges identifierStartRanges c.toNat

def isIdentifierPart (c : Char) : Bool :=
  if c.toNat < 128 then c.isAlphanum || c == '_' else inRanges identifierPartRanges c.toNat

def isCased (c : Char) : Bool :=
  if c.toNat < 128 then c.isAlpha else inRanges casedRanges c.toNat

def isCaseIgnorable (c : Char) : Bool :=
  if c.toNat < 128 then "'.:^`".toList.contains c else inRanges caseIgnorableRanges c.toNat

def startsCased (text : List Char) : Bool :=
  match text.dropWhile isCaseIgnorable with
  | [] => false
  | c :: _ => isCased c

def smallCode (code : Nat) : Nat :=
  match smallLetterRuns.find? fun (first, last, step, _) =>
      first ≤ code && code ≤ last && (code - first) % step == 0 with
  | some (first, _, _, small) => small + (code - first)
  | none => code

def small (c : Char) : List Char :=
  if c.toNat < 128 then [c.toLower]
  else if c = 'İ' then ['i', '\u0307']
  else [Char.ofNat (smallCode c.toNat)]

/-- Lower casing with the text before, nearest character first, as context. -/
def lowercaseFrom (before : List Char) : List Char → List Char
  | [] => []
  | c :: rest =>
    let form :=
      if c = 'Σ' then
        if startsCased before && !startsCased rest then ['ς'] else ['σ']
      else small c
    form ++ lowercaseFrom (c :: before) rest

def lowercase (text : String) : String := String.ofList (lowercaseFrom [] text.toList)

def escapeQuoted (c : Char) : List Char :=
  match c with
  | '"' => ['\\', '"']
  | '\\' => ['\\', '\\']
  | '\n' => ['\\', 'n']
  | '\r' => ['\\', 'r']
  | '\t' => ['\\', 't']
  | '\x00' => ['\\', '0']
  | c =>
    if isHidden c then ['\\', 'u', '\x7b'] ++ Nat.toDigits 16 c.toNat ++ ['\x7d'] else [c]

def quoted (text : String) : String :=
  "\"" ++ String.ofList (text.toList.flatMap escapeQuoted) ++ "\""

def quotedList (texts : List String) : String :=
  "[" ++ String.intercalate ", " (texts.map quoted) ++ "]"

def followers (lead : Nat) : Nat :=
  if lead < 0x80 then 0
  else if lead < 0xE0 then 1
  else if lead < 0xF0 then 2
  else 3

def leadBits (lead : Nat) : Nat :=
  if lead < 0x80 then lead
  else if lead < 0xE0 then lead % 0x20
  else if lead < 0xF0 then lead % 0x10
  else lead % 0x08

/-- The character that UTF-8 writes as these bytes. Writing it again has to give the same
bytes, so no other spelling is accepted. -/
def charOfUtf8? : List Nat → Option Char
  | [] => none
  | lead :: rest =>
    let code := rest.foldl (fun code byte => 0x40 * code + byte % 0x40) (leadBits lead)
    if code.isValidChar &&
        (String.utf8EncodeChar (Char.ofNat code)).map UInt8.toNat == lead :: rest then
      some (Char.ofNat code)
    else none

/-- Replaces `pattern`, which is not empty; the first `skip` characters belong to an
occurrence that has been replaced already. -/
def replaceFrom (pattern replacement : List Char) : Nat → List Char → List Char
  | _, [] => []
  | skip + 1, _ :: rest => replaceFrom pattern replacement skip rest
  | 0, c :: rest =>
    if pattern.isPrefixOf (c :: rest) then
      replacement ++ replaceFrom pattern replacement (pattern.length - 1) rest
    else c :: replaceFrom pattern replacement 0 rest

def replaceAll (pattern replacement text : String) : String :=
  String.ofList (replaceFrom pattern.toList replacement.toList 0 text.toList)

def occursIn (pattern : List Char) : List Char → Bool
  | [] => pattern.isEmpty
  | c :: rest => pattern.isPrefixOf (c :: rest) || occursIn pattern rest

def contains (text pattern : String) : Bool := occursIn pattern.toList text.toList

def isBoundary (before after : Option Char) : Bool :=
  before.any isWord != after.any isWord

/-- Whether a token asks for a boundary on the side where it has the character `c`. -/
def asksBoundary (c : Option Char) : Bool :=
  c.any fun c => isAlphanumeric c || c == '_'

def tokenAt (token : List Char) (before : Option Char) (text : List Char) : Bool :=
  token.isPrefixOf text &&
  (!asksBoundary token.head? || isBoundary before text.head?) &&
  (!asksBoundary token.getLast? ||
    isBoundary (token.getLast?.or before) (text.drop token.length).head?)

/-- Replaces a token in a text that follows `before`; the first `skip` characters belong to
an occurrence that has been replaced already. The empty token stands between any two
characters and at both ends. -/
def replaceTokenFrom (token replacement : List Char) :
    Option Char → Nat → List Char → List Char
  | _, skip + 1, c :: rest => replaceTokenFrom token replacement (some c) skip rest
  | before, 0, c :: rest =>
    if tokenAt token before (c :: rest) then
      match token.length with
      | 0 => replacement ++ c :: replaceTokenFrom token replacement (some c) 0 rest
      | length + 1 => replacement ++ replaceTokenFrom token replacement (some c) length rest
    else c :: replaceTokenFrom token replacement (some c) 0 rest
  | _, _, [] => if token.isEmpty then replacement else []

def replaceToken (token replacement text : String) : String :=
  String.ofList (replaceTokenFrom token.toList replacement.toList none 0 text.toList)

end EntityPack.Text
