import ClaimRules.Binary64.Scaled
import ClaimRules.Entries
import ClaimRules.Json.Basic

/-! Reading of JSON text. Each reader answers what it has read and the text that is left. -/

namespace ClaimRules.Json

inductive Fault where
  | unexpectedEnd
  | unexpected (c : Char)
  | controlCharacter (c : Char)
  | badEscape
  | loneSurrogate
  | badNumber
  | numberTooLarge
  | tooDeep
  | trailingText
  | notText
  deriving DecidableEq, Repr

def Fault.message : Fault → String
  | .unexpectedEnd => "unexpected end of text"
  | .unexpected c => "unexpected character '" ++ c.toString ++ "'"
  | .controlCharacter _ => "control character in a string"
  | .badEscape => "invalid escape"
  | .loneSurrogate => "lone surrogate in a string"
  | .badNumber => "invalid number"
  | .numberTooLarge => "number out of range"
  | .tooDeep => "nested too deeply"
  | .trailingText => "trailing characters"
  | .notText => "not UTF-8 text"

abbrev Reader (α : Type) := List Char → Except Fault (α × List Char)

def isBlank (c : Char) : Bool := c = ' ' || c = '\n' || c = '\t' || c = '\r'

def skipBlanks (text : List Char) : List Char := text.dropWhile isBlank

def surprise : List Char → Fault
  | [] => .unexpectedEnd
  | c :: _ => .unexpected c

def hexValue? (c : Char) : Option Nat :=
  if c.isDigit then some (c.toNat - '0'.toNat)
  else if 'a' ≤ c ∧ c ≤ 'f' then some (c.toNat - 'a'.toNat + 10)
  else if 'A' ≤ c ∧ c ≤ 'F' then some (c.toNat - 'A'.toNat + 10)
  else none

def hexUnit? (a b c d : Char) : Option Nat := do
  let a ← hexValue? a
  let b ← hexValue? b
  let c ← hexValue? c
  let d ← hexValue? d
  some (((a * 16 + b) * 16 + c) * 16 + d)

def shortEscape? : Char → Option Char
  | '"' => some '"'
  | '\\' => some '\\'
  | '/' => some '/'
  | 'b' => some (Char.ofNat 8)
  | 'f' => some (Char.ofNat 12)
  | 'n' => some '\n'
  | 'r' => some '\r'
  | 't' => some '\t'
  | _ => none

def isHighSurrogate (unit : Nat) : Bool := 0xd800 ≤ unit && unit < 0xdc00

def isLowSurrogate (unit : Nat) : Bool := 0xdc00 ≤ unit && unit < 0xe000

def joinSurrogates (high low : Nat) : Char :=
  Char.ofNat (0x10000 + (high - 0xd800) * 0x400 + (low - 0xdc00))

def readChars : Reader (List Char)
  | [] => .error .unexpectedEnd
  | '"' :: rest => .ok ([], rest)
  | '\\' :: 'u' :: a :: b :: c :: d :: rest =>
    match hexUnit? a b c d with
    | none => .error .badEscape
    | some unit =>
      if isLowSurrogate unit then .error .loneSurrogate
      else if isHighSurrogate unit then
        match rest with
        | '\\' :: 'u' :: e :: f :: g :: h :: rest =>
          match hexUnit? e f g h with
          | none => .error .badEscape
          | some low =>
            if isLowSurrogate low then
              match readChars rest with
              | .ok (chars, rest) => .ok (joinSurrogates unit low :: chars, rest)
              | .error fault => .error fault
            else .error .loneSurrogate
        | _ => .error .loneSurrogate
      else
        match readChars rest with
        | .ok (chars, rest) => .ok (Char.ofNat unit :: chars, rest)
        | .error fault => .error fault
  | '\\' :: e :: rest =>
    match shortEscape? e with
    | none => .error .badEscape
    | some c =>
      match readChars rest with
      | .ok (chars, rest) => .ok (c :: chars, rest)
      | .error fault => .error fault
  | c :: rest =>
    if c = '\\' then .error .unexpectedEnd
    else if c.toNat < 32 then .error (.controlCharacter c)
    else
      match readChars rest with
      | .ok (chars, rest) => .ok (c :: chars, rest)
      | .error fault => .error fault

structure Numeral where
  negative : Bool
  whole : List Char
  fraction : List Char
  exponent : Int
  /-- Whether there is neither a point nor an exponent. -/
  plain : Bool

/-- The number that digits spell after those of `word`, as far as a word has room for it, and how many
digits are left over. -/
def fillWord (word : Nat) : List Char → Nat × Nat
  | [] => (word, 0)
  | digit :: rest =>
    let next := word * 10 + (digit.toNat - '0'.toNat)
    if next < UInt64.size then fillWord next rest else (word, rest.length + 1)

/-- Digits before the point that are left over count as zeros, and those after it not at all. -/
def Numeral.real (n : Numeral) : Binary64 :=
  let (whole, zeros) := fillWord 0 n.whole
  let (digits, dropped) := fillWord whole n.fraction
  let places := n.fraction.length - dropped
  (Binary64.ofDecimal digits (n.exponent + zeros - places)).withSign n.negative

def real? (x : Binary64) : Except Fault Json :=
  if h : x.isFinite = true then .ok (.real x h) else .error .numberTooLarge

/-- Plain numerals that fit a word are whole numbers; minus zero and all others are reals. -/
def Numeral.value (n : Numeral) : Except Fault Json :=
  let whole := digitsValue n.whole
  if n.plain ∧ n.negative ∧ 0 < whole ∧ whole ≤ signedLimit then .ok (.integer (Int64.ofInt (-whole)))
  else if n.plain ∧ ¬n.negative ∧ whole < signedLimit then .ok (.integer (Int64.ofInt whole))
  else if h : n.plain ∧ ¬n.negative ∧ signedLimit ≤ whole ∧ whole < UInt64.size then
    .ok (.large (UInt64.ofNat whole) (by
      rw [UInt64.toNat_ofNat_of_lt' h.2.2.2]
      exact h.2.2.1))
  else
    real? n.real

def readDigits (text : List Char) : Except Fault (List Char × List Char) :=
  match text.takeWhile Char.isDigit with
  | [] => .error .badNumber
  | digits => .ok (digits, text.dropWhile Char.isDigit)

def readWhole (text : List Char) : Except Fault (List Char × List Char) :=
  match readDigits text with
  | .error fault => .error fault
  | .ok ('0' :: _ :: _, _) => .error .badNumber
  | .ok read => .ok read

def readFraction : List Char → Except Fault (List Char × List Char)
  | '.' :: rest => readDigits rest
  | rest => .ok ([], rest)

def readExponent (text : List Char) : Except Fault (Option Int × List Char) :=
  match text with
  | c :: rest =>
    if c = 'e' ∨ c = 'E' then
      let (negative, rest) :=
        match rest with
        | '-' :: rest => (true, rest)
        | '+' :: rest => (false, rest)
        | rest => (false, rest)
      match readDigits rest with
      | .error fault => .error fault
      | .ok (digits, rest) =>
        .ok (some (if negative then -(digitsValue digits : Int) else digitsValue digits), rest)
    else .ok (none, text)
  | [] => .ok (none, text)

def readNumeral (text : List Char) : Except Fault (Numeral × List Char) := do
  let negative := text.head? == some '-'
  let (whole, rest) ← readWhole (if negative then text.drop 1 else text)
  let (fraction, rest) ← readFraction rest
  let (exponent, rest) ← readExponent rest
  return (⟨negative, whole, fraction, exponent.getD 0, fraction.isEmpty && exponent.isNone⟩, rest)

def readNumber : Reader Json := fun text => do
  let (numeral, rest) ← readNumeral text
  let value ← numeral.value
  return (value, rest)

def readWord (word : List Char) (value : Json) : Reader Json := fun text =>
  if text.take word.length = word then .ok (value, text.drop word.length)
  else .error (surprise text)

def readElements {α : Type} (close : Char) (element : Reader α) : Nat → Reader (List α)
  | 0, _ => .error .unexpectedEnd
  | fuel + 1, text => do
    let (first, rest) ← element (skipBlanks text)
    match skipBlanks rest with
    | c :: rest =>
      if c = close then .ok ([first], rest)
      else if c = ',' then do
        let (others, rest) ← readElements close element fuel rest
        .ok (first :: others, rest)
      else .error (.unexpected c)
    | [] => .error .unexpectedEnd

def readList {α : Type} (close : Char) (element : Reader α) : Reader (List α) := fun text =>
  match skipBlanks text with
  | [] => .error .unexpectedEnd
  | c :: rest =>
    if c = close then .ok ([], rest) else readElements close element text.length (c :: rest)

def readEntry (value : Reader Json) : Reader (String × Json)
  | '"' :: text => do
    let (key, rest) ← readChars text
    match skipBlanks rest with
    | ':' :: rest => do
      let (doc, rest) ← value (skipBlanks rest)
      .ok ((String.ofList key, doc), rest)
    | rest => .error (surprise rest)
  | text => .error (surprise text)

/-- A document at the front of the text, with at most `levels` arrays and objects inside each
other. -/
def readValue : Nat → Reader Json
  | levels, text =>
    match text with
    | [] => .error .unexpectedEnd
    | c :: rest =>
      if c = '"' then do
        let (chars, rest) ← readChars rest
        .ok (.string (String.ofList chars), rest)
      else if c = '[' then
        match levels with
        | 0 => .error .tooDeep
        | levels + 1 => do
          let (items, rest) ← readList ']' (readValue levels) rest
          .ok (.array items, rest)
      else if c = '\x7b' then
        match levels with
        | 0 => .error .tooDeep
        | levels + 1 => do
          let (entries, rest) ← readList '\x7d' (readEntry (readValue levels)) rest
          .ok (.object (Entries.ofPairs entries), rest)
      else if c = '-' ∨ c.isDigit then readNumber text
      else if c = 't' then readWord ['t', 'r', 'u', 'e'] (.boolean true) text
      else if c = 'f' then readWord ['f', 'a', 'l', 's', 'e'] (.boolean false) text
      else readWord ['n', 'u', 'l', 'l'] .null text

def levelLimit : Nat := 127

/-- The document that the whole text spells. The last of several equal keys wins, at the place of
the first. -/
def parse (text : String) : Except Fault Json := do
  let (doc, rest) ← readValue levelLimit (skipBlanks text.toList)
  match skipBlanks rest with
  | [] => .ok doc
  | _ => .error .trailingText

def parseBytes (bytes : ByteArray) : Except Fault Json :=
  match String.fromUTF8? bytes with
  | some text => parse text
  | none => .error .notText

end ClaimRules.Json
