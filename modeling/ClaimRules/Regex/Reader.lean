import ClaimRules.Digits
import ClaimRules.Regex.Expr
import ClaimRules.Unicode.Letter
import ClaimRules.Unicode.Property

/-! Reading of regular expressions. Readers take the text that is left and answer what is left after
them; `x` tells whether blanks and comments are passed over. -/

namespace ClaimRules.Regex

def isBlank (c : Char) : Bool := Unicode.whiteSpace.contains c.toNat

/-- Passes over blanks and comments; the flag tells whether the text starts inside a comment. -/
def skipExtended : Bool → List Char → List Char
  | _, [] => []
  | true, c :: rest => skipExtended (c != '\n') rest
  | false, c :: rest =>
    if isBlank c then skipExtended false rest
    else if c = '#' then skipExtended true rest
    else c :: rest

def skip (x : Bool) (text : List Char) : List Char := if x then skipExtended false text else text

/-- The character after the first one. Blanks are passed over, and so is one comment sign. -/
def peekPast (x : Bool) (text : List Char) : Option Char :=
  let after := text.drop 1
  if x then
    match after.dropWhile isBlank with
    | [] => after.head?
    | '#' :: rest =>
      match rest.dropWhile isBlank with
      | [] => after.head?
      | c :: _ => some c
    | c :: _ => some c
  else after.head?

def takeSpaced (x : Bool) (test : Char → Bool) : Bool → List Char → List Char × List Char
  | _, [] => ([], [])
  | true, c :: rest => takeSpaced x test (c != '\n') rest
  | false, c :: rest =>
    if x && isBlank c then takeSpaced x test false rest
    else if x && c == '#' then takeSpaced x test true rest
    else if test c then
      let (taken, left) := takeSpaced x test false rest
      (c :: taken, left)
    else ([], c :: rest)

def takeBraced (x : Bool) (text : List Char) : Except Fault (List Char × List Char) :=
  match takeSpaced x (· != '\x7d') false text with
  | (taken, _ :: rest) => .ok (taken, rest)
  | (_, []) => .error .unexpectedEnd

inductive Primitive where
  | literal (l : Literal)
  | assertion (a : Assertion)
  | item (i : ClassItem)

def hexDigit? (c : Char) : Option Nat :=
  if c.isDigit then some (c.toNat - '0'.toNat)
  else if 'a' ≤ c ∧ c ≤ 'f' then some (c.toNat - 'a'.toNat + 10)
  else if 'A' ≤ c ∧ c ≤ 'F' then some (c.toNat - 'A'.toNat + 10)
  else none

def charOfCode (code : Nat) : Except Fault Char :=
  if code.isValidChar then .ok (Char.ofNat code) else .error .badHex

def readFixedHex (x : Bool) : Nat → Nat → List Char → Except Fault (Nat × List Char)
  | 0, value, rest => .ok (value, rest)
  | _ + 1, _, [] => .error .unexpectedEnd
  | n + 1, value, c :: rest =>
    match hexDigit? c with
    | none => .error .badHex
    | some d => readFixedHex x n (value * 16 + d) (skip x rest)

def hexValue : List Char → Except Fault Nat
  | [] => .error .badHex
  | digits => digits.foldlM (fun value c =>
      match hexDigit? c with
      | none => .error .badHex
      | some d => .ok (value * 16 + d)) 0

def readHex (x : Bool) (count : Nat) (text : List Char) : Except Fault (Primitive × List Char) :=
  match skip x text with
  | [] => .error .unexpectedEnd
  | '\x7b' :: rest => do
    let (digits, rest) ← takeBraced x rest
    let char ← charOfCode (← hexValue digits)
    return (.literal ⟨char, false⟩, skip x rest)
  | rest => do
    let (code, rest) ← readFixedHex x count 0 rest
    let char ← charOfCode code
    return (.literal ⟨char, count == 2⟩, rest)

def splitAt? (separator : List Char) : List Char → Option (List Char × List Char)
  | [] => none
  | c :: rest =>
    if (c :: rest).take separator.length = separator then
      some ([], (c :: rest).drop separator.length)
    else (splitAt? separator rest).map fun parts => (c :: parts.1, parts.2)

def queryOf (name : List Char) : PropertyQuery × Bool :=
  match splitAt? ['!', '='] name with
  | some (n, v) => (.valued (.ofList n) (.ofList v), true)
  | none =>
    match splitAt? [':'] name with
    | some (n, v) => (.valued (.ofList n) (.ofList v), false)
    | none =>
      match splitAt? ['='] name with
      | some (n, v) => (.valued (.ofList n) (.ofList v), false)
      | none => (.named (.ofList name), false)

def readProperty (x negated : Bool) (text : List Char) : Except Fault (Primitive × List Char) :=
  match skip x text with
  | [] => .error .unexpectedEnd
  | '\x7b' :: rest => do
    let (name, rest) ← takeBraced x rest
    let (query, other) := queryOf name
    return (.item (.property query (negated != other)), rest)
  | c :: rest =>
    if c = '\\' then .error .badProperty
    else .ok (.item (.property (.named c.toString) negated), skip x rest)

def isWordBoundaryChar (c : Char) : Bool := c.isAlpha || c == '-'

def readWordBoundary (x : Bool) (text : List Char) : Except Fault (Assertion × List Char) :=
  match text with
  | '\x7b' :: rest =>
    match skip x rest with
    | [] => .error .unexpectedEnd
    | c :: rest =>
      if isWordBoundaryChar c then
        match takeSpaced x isWordBoundaryChar false (c :: rest) with
        | (name, '\x7d' :: rest) =>
          if name = "start".toList then .ok (.wordStart, rest)
          else if name = "end".toList then .ok (.wordEnd, rest)
          else if name = "start-half".toList then .ok (.wordStartHalf, rest)
          else if name = "end-half".toList then .ok (.wordEndHalf, rest)
          else .error .badWordBoundary
        | _ => .error .badWordBoundary
      else .ok (.wordBoundary, text)
  | _ => .ok (.wordBoundary, text)

def isMeta (c : Char) : Bool :=
  "\\.+*?()|[]\x7b\x7d^$#&-~".toList.contains c

def isEscapable (c : Char) : Bool :=
  isMeta c || (c.toNat < 128 && !c.isAlphanum && c != '<' && c != '>')

def readEscape (x : Bool) : List Char → Except Fault (Primitive × List Char)
  | [] => .error .unexpectedEnd
  | c :: rest =>
    if c.isDigit then .error .backreference
    else
      match c with
      | 'x' => readHex x 2 rest
      | 'u' => readHex x 4 rest
      | 'U' => readHex x 8 rest
      | 'p' => readProperty x false rest
      | 'P' => readProperty x true rest
      | 'd' => .ok (.item (.shorthand .digit false), rest)
      | 's' => .ok (.item (.shorthand .space false), rest)
      | 'w' => .ok (.item (.shorthand .word false), rest)
      | 'D' => .ok (.item (.shorthand .digit true), rest)
      | 'S' => .ok (.item (.shorthand .space true), rest)
      | 'W' => .ok (.item (.shorthand .word true), rest)
      | 'a' => .ok (.literal ⟨Char.ofNat 7, false⟩, rest)
      | 'f' => .ok (.literal ⟨Char.ofNat 12, false⟩, rest)
      | 't' => .ok (.literal ⟨'\t', false⟩, rest)
      | 'n' => .ok (.literal ⟨'\n', false⟩, rest)
      | 'r' => .ok (.literal ⟨'\r', false⟩, rest)
      | 'v' => .ok (.literal ⟨Char.ofNat 11, false⟩, rest)
      | 'A' => .ok (.assertion .textStart, rest)
      | 'z' => .ok (.assertion .textEnd, rest)
      | 'b' => do
        let (a, rest) ← readWordBoundary x rest
        return (.assertion a, rest)
      | 'B' => .ok (.assertion .notWordBoundary, rest)
      | '<' => .ok (.assertion .wordStart, rest)
      | '>' => .ok (.assertion .wordEnd, rest)
      | c => if isEscapable c then .ok (.literal ⟨c, false⟩, rest) else .error .badEscape

inductive ClassFrame where
  | opened (outer : List ClassSet) (negated : Bool)
  | operator (op : SetOperator) (left : ClassSet)

/-- A class being read: its parts so far, last first, and what stands around it. -/
structure ClassReading where
  parts : List ClassSet
  frames : List ClassFrame

def ClassReading.joined (r : ClassReading) : ClassSet × List ClassFrame :=
  let right := ClassSet.ofParts r.parts.reverse
  match r.frames with
  | .operator op left :: frames => (.combined op left right, frames)
  | frames => (right, frames)

def ClassReading.operate (r : ClassReading) (op : SetOperator) : ClassReading :=
  let (left, frames) := r.joined
  ⟨[], .operator op left :: frames⟩

def posixNames : List String :=
  ["alnum", "alpha", "ascii", "blank", "cntrl", "digit", "graph", "lower", "print", "punct", "space",
    "upper", "word", "xdigit"]

def readPosix? : List Char → Option (ClassItem × List Char)
  | ':' :: rest =>
    let negated := rest.head? == some '^'
    let rest := if negated then rest.drop 1 else rest
    let name := String.ofList (rest.takeWhile (· != ':'))
    match rest.dropWhile (· != ':') with
    | ':' :: ']' :: rest => if posixNames.contains name then some (.posix name negated, rest) else none
    | _ => none
  | _ => none

def takeHyphens (x : Bool) : Nat → List Char → List ClassSet → List ClassSet × List Char
  | fuel + 1, '-' :: rest, parts =>
    takeHyphens x fuel (skip x rest) (.item (.literal ⟨'-', false⟩) :: parts)
  | _, text, parts => (parts, text)

/-- The start of a class after its opening bracket: whether it is negated, and the hyphens or the
closing bracket that stand for themselves there. -/
def openClass (x : Bool) (text : List Char) : Except Fault (Bool × List ClassSet × List Char) :=
  let text := skip x text
  let negated := text.head? == some '^'
  let text := if negated then skip x (text.drop 1) else text
  let (parts, text) := takeHyphens x text.length text []
  match parts, text with
  | _, [] => .error .unclosedClass
  | [], ']' :: rest =>
    match skip x rest with
    | [] => .error .unclosedClass
    | rest => .ok (negated, [.item (.literal ⟨']', false⟩)], rest)
  | parts, text => .ok (negated, parts, text)

def readClassPrimitive (x : Bool) : List Char → Except Fault (Primitive × List Char)
  | [] => .error .unclosedClass
  | '\\' :: rest => readEscape x rest
  | c :: rest => .ok (.literal ⟨c, false⟩, rest)

def Primitive.classItem : Primitive → Except Fault ClassItem
  | .literal l => .ok (.literal l)
  | .item i => .ok i
  | .assertion _ => .error .classMember

def Primitive.classLiteral : Primitive → Except Fault Literal
  | .literal l => .ok l
  | _ => .error .badClassRange

def readClassItem (x : Bool) (text : List Char) : Except Fault (ClassItem × List Char) := do
  let (first, rest) ← readClassPrimitive x text
  match skip x rest with
  | [] => throw .unclosedClass
  | c :: rest =>
    let next := peekPast x (c :: rest)
    if c != '-' || next == some ']' || next == some '-' then
      return (← first.classItem, c :: rest)
    else
      match skip x rest with
      | [] => throw .unclosedClass
      | rest =>
        let (last, rest) ← readClassPrimitive x rest
        let first ← first.classLiteral
        let last ← last.classLiteral
        if first.char ≤ last.char then return (.range first last, rest) else throw .badClassRange

def readClassParts (x : Bool) : Nat → ClassReading → List Char →
    Except Fault (Bool × ClassSet × List Char)
  | 0, _, _ => .error .unclosedClass
  | fuel + 1, r, text =>
    let operate (op : SetOperator) (rest : List Char) :=
      readClassParts x fuel (r.operate op) (rest.drop 1)
    let member := do
      let (i, rest) ← readClassItem x (skip x text)
      readClassParts x fuel { r with parts := .item i :: r.parts } rest
    match skip x text with
    | [] => .error .unclosedClass
    | '[' :: rest =>
      match readPosix? rest with
      | some (i, rest) => readClassParts x fuel { r with parts := .item i :: r.parts } rest
      | none => do
        let (negated, parts, rest) ← openClass x rest
        readClassParts x fuel ⟨parts, .opened r.parts negated :: r.frames⟩ rest
    | ']' :: rest =>
      match r.joined with
      | (set, .opened outer negated :: frames) =>
        if frames.isEmpty then .ok (negated, set, rest)
        else readClassParts x fuel ⟨.bracketed negated set :: outer, frames⟩ rest
      | _ => .error .unclosedClass
    | '&' :: rest => if rest.head? == some '&' then operate .intersection rest else member
    | '-' :: rest => if rest.head? == some '-' then operate .difference rest else member
    | '~' :: rest => if rest.head? == some '~' then operate .symmetricDifference rest else member
    | _ => member

def readClass (x : Bool) (text : List Char) : Except Fault (Expr × List Char) := do
  let (negated, parts, rest) ← openClass x text
  let (negated, set, rest) ← readClassParts x text.length ⟨parts, [.opened [] negated]⟩ rest
  return (.bracketed negated set, rest)

def repeatable : List Expr → Except Fault (Expr × List Expr)
  | [] => .error .missingOperand
  | .empty :: _ => .error .missingOperand
  | .flags _ :: _ => .error .missingOperand
  | body :: earlier => .ok (body, earlier)

def readGreed (text : List Char) : Bool × List Char :=
  match text with
  | '?' :: rest => (false, rest)
  | rest => (true, rest)

def readCount (x : Bool) (text : List Char) : Except Fault (Option Nat × List Char) :=
  let (digits, rest) := takeSpaced x Char.isDigit false (text.dropWhile isBlank)
  let rest := skip x (rest.dropWhile isBlank)
  if digits.isEmpty then .ok (none, rest)
  else if digitsValue digits < UInt32.size then .ok (some (digitsValue digits), rest)
  else .error .badCount

def required (count : Option Nat) : Except Fault Nat :=
  match count with
  | some n => .ok n
  | none => .error .missingCount

def readBounds (x : Bool) (text : List Char) : Except Fault (Nat × Option Nat × List Char) := do
  let (first, rest) ← readCount x (skip x text)
  match rest with
  | [] => throw .unclosedCount
  | ',' :: rest =>
    match skip x rest with
    | '\x7d' :: rest => return (← required first, none, rest)
    | rest =>
      let first ← required first
      let (last, rest) ← readCount x rest
      let last ← required last
      match rest with
      | '\x7d' :: rest => if first ≤ last then return (first, some last, rest) else throw .badCount
      | _ => throw .unclosedCount
  | '\x7d' :: rest =>
    let first ← required first
    return (first, some first, rest)
  | _ => throw .unclosedCount

/-- A group being read, or the whole pattern: the branches and parts before, last first, and whether
blanks were passed over outside. -/
structure Level where
  kind : GroupKind
  outside : Bool
  branches : List Expr
  parts : List Expr

structure Reading where
  x : Bool
  level : Level
  outer : List Level
  captures : Nat
  names : List String

def Level.expr (l : Level) : Expr :=
  match l.branches with
  | [] => .ofParts l.parts.reverse
  | branches => .choice (branches.reverse ++ [.ofParts l.parts.reverse])

def Reading.push (r : Reading) (e : Expr) : Reading :=
  { r with level := { r.level with parts := e :: r.level.parts } }

def Reading.branch (r : Reading) : Reading :=
  { r with level :=
    { r.level with branches := .ofParts r.level.parts.reverse :: r.level.branches, parts := [] } }

def Reading.enter (r : Reading) (kind : GroupKind) (x : Bool) : Reading :=
  { r with x := x, level := ⟨kind, r.x, [], []⟩, outer := r.level :: r.outer }

def Reading.leave (r : Reading) : Except Fault Reading :=
  match r.outer with
  | [] => .error .unopenedGroup
  | level :: outer =>
    .ok { r with
      x := r.level.outside
      level := { level with parts := .group r.level.kind r.level.expr :: level.parts }
      outer := outer }

def isNameStart (c : Char) : Bool := c == '_' || Unicode.alphabetic.contains c.toNat

def isNamePart (c : Char) : Bool :=
  c == '_' || c == '.' || c == '[' || c == ']' || Unicode.alphanumeric.contains c.toNat

def readName (text : List Char) : Except Fault (String × List Char) :=
  let name := text.takeWhile (· != '>')
  match name, text.dropWhile (· != '>') with
  | _, [] => .error .badCaptureName
  | [], _ => .error .badCaptureName
  | first :: others, _ :: rest =>
    if isNameStart first && others.all isNamePart then .ok (.ofList name, rest)
    else .error .badCaptureName

def flag? : Char → Option Flag
  | 'i' => some .ignoreCase
  | 'm' => some .multiLine
  | 's' => some .dotAll
  | 'U' => some .swapGreed
  | 'u' => some .unicode
  | 'R' => some .crlf
  | 'x' => some .extended
  | _ => none

/-- Flags up to a colon or a closing parenthesis, which is left. A hyphen switches the later ones
off, and must not be the last. -/
def readFlags : FlagChanges → Bool → Bool → List Char → Except Fault (FlagChanges × List Char)
  | _, _, _, [] => .error .unexpectedEnd
  | changes, off, dangling, c :: rest =>
    if c = ':' ∨ c = ')' then
      if dangling then .error .badFlag else .ok (changes.reverse, c :: rest)
    else if c = '-' then
      if off then .error .duplicateFlag else readFlags changes true true rest
    else
      match flag? c with
      | none => .error .badFlag
      | some f =>
        if changes.any (·.1 == f) then .error .duplicateFlag
        else readFlags ((f, !off) :: changes) off false rest

def extendedAfter (x : Bool) (changes : FlagChanges) : Bool := (changes.lookup .extended).getD x

def Reading.enterCapture (r : Reading) (name : Option String) : Reading :=
  let index := r.captures + 1
  { r with captures := index }.enter (.capture index name) r.x

def Reading.enterNamed (r : Reading) (text : List Char) : Except Fault (Reading × List Char) := do
  let (name, rest) ← readName text
  if r.names.contains name then throw .duplicateName
  else return ({ r with names := name :: r.names }.enterCapture (some name), rest)

def Reading.openGroup (r : Reading) (text : List Char) : Except Fault (Reading × List Char) :=
  match skip r.x text with
  | '?' :: '=' :: _ => .error .lookAround
  | '?' :: '!' :: _ => .error .lookAround
  | '?' :: '<' :: '=' :: _ => .error .lookAround
  | '?' :: '<' :: '!' :: _ => .error .lookAround
  | '?' :: 'P' :: '<' :: rest => r.enterNamed rest
  | '?' :: '<' :: rest => r.enterNamed rest
  | '?' :: [] => .error .unclosedGroup
  | '?' :: rest => do
    let (changes, rest) ← readFlags [] false false rest
    match rest with
    | ')' :: rest =>
      if changes.isEmpty then throw .missingOperand
      else
        return ({ r with x := extendedAfter r.x changes }.push (.flags changes), rest)
    | rest => return (r.enter (.plain changes) (extendedAfter r.x changes), rest.drop 1)
  | rest => .ok (r.enterCapture none, rest)

def Primitive.expr : Primitive → Expr
  | .literal l => .literal l
  | .assertion a => .assertion a
  | .item i => .item i

def Reading.repeatLast (r : Reading) (least : Nat) (most : Option Nat) (greedy : Bool) :
    Except Fault Reading := do
  let (body, earlier) ← repeatable r.level.parts
  return { r with
    level := { r.level with parts := .repeated least most greedy body :: earlier } }

def Reading.step (r : Reading) (c : Char) (rest : List Char) : Except Fault (Reading × List Char) :=
  let counted (least : Nat) (most : Option Nat) : Except Fault (Reading × List Char) := do
    let (greedy, rest) := readGreed rest
    return (← r.repeatLast least most greedy, rest)
  match c with
  | '(' => r.openGroup rest
  | ')' => do return (← r.leave, rest)
  | '|' => .ok (r.branch, rest)
  | '[' => do
    let (e, rest) ← readClass r.x rest
    return (r.push e, rest)
  | '?' => counted 0 (some 1)
  | '*' => counted 0 none
  | '+' => counted 1 none
  | '\x7b' => do
    let _ ← repeatable r.level.parts
    let (least, most, rest) ← readBounds r.x rest
    let (greedy, rest) := readGreed (skip r.x rest)
    return (← r.repeatLast least most greedy, rest)
  | '\\' => do
    let (p, rest) ← readEscape r.x rest
    return (r.push p.expr, rest)
  | '.' => .ok (r.push .dot, rest)
  | '^' => .ok (r.push (.assertion .lineStart), rest)
  | '$' => .ok (r.push (.assertion .lineEnd), rest)
  | c => .ok (r.push (.literal ⟨c, false⟩), rest)

def Reading.run : Nat → Reading → List Char → Except Fault Reading
  | 0, r, _ => .ok r
  | fuel + 1, r, text =>
    match skip r.x text with
    | [] => .ok r
    | c :: rest => do
      let (r, rest) ← r.step c rest
      Reading.run fuel r rest

def Reading.start : Reading := ⟨false, ⟨.plain [], false, [], []⟩, [], 0, []⟩

/-- How deeply the parts of a pattern may be nested. -/
def depthLimit : Nat := 250

def Expr.parse (pattern : String) : Except Fault Expr := do
  let text := pattern.toList
  let r ← Reading.start.run text.length text
  if !r.outer.isEmpty then throw .unclosedGroup
  else if depthLimit < r.level.expr.depth then throw .nestedTooDeeply
  else return r.level.expr

end ClaimRules.Regex
