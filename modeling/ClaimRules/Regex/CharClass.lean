import ClaimRules.Regex.Expr
import ClaimRules.Unicode.Age
import ClaimRules.Unicode.Category
import ClaimRules.Unicode.Folding
import ClaimRules.Unicode.GraphemeBreak
import ClaimRules.Unicode.Property
import ClaimRules.Unicode.Script
import ClaimRules.Unicode.ScriptExtension
import ClaimRules.Unicode.SentenceBreak
import ClaimRules.Unicode.WordBreak

/-! The sets of characters that classes stand for. -/

namespace ClaimRules.Regex

open Unicode (CodeSet)

structure ClassMode where
  unicode : Bool
  ignoreCase : Bool

/-- The changes of simple folding. -/
def foldPairs : List (Nat × Nat) := Unicode.foldRuns.flatMap Unicode.CaseRun.pairs

def codes (list : List Nat) : CodeSet := .ofRanges (list.map fun code => ⟨code, code⟩)

def closeUnderFolding (set : CodeSet) : CodeSet :=
  let images := foldPairs.filterMap fun p => if set.contains p.1 then some p.2 else none
  let wider := set.union (codes images)
  let sources := foldPairs.filterMap fun p => if wider.contains p.2 then some p.1 else none
  wider.union (codes sources)

def closeUnderAsciiCase (set : CodeSet) : CodeSet :=
  let letters := (List.range 26).map fun i => (0x41 + i, 0x61 + i)
  set.union (codes ((letters.filter fun p => set.contains p.2).map Prod.fst ++
    (letters.filter fun p => set.contains p.1).map Prod.snd))

def ClassMode.fold (mode : ClassMode) (set : CodeSet) : CodeSet :=
  if mode.ignoreCase then
    if mode.unicode then closeUnderFolding set else closeUnderAsciiCase set
  else set

/-- The complement among characters or bytes. Sets of bytes must stay within ASCII. -/
def ClassMode.negate (mode : ClassMode) (negated : Bool) (set : CodeSet) : Except Fault CodeSet :=
  if mode.unicode then .ok (if negated then set.compl else set)
  else
    let set := if negated then set.complUpTo 0xff else set
    if set.isAscii then .ok set else .error .notUtf8

def ClassMode.finish (mode : ClassMode) (negated : Bool) (set : CodeSet) : Except Fault CodeSet :=
  mode.negate negated (mode.fold set)

def posixSet (name : String) : CodeSet :=
  match name with
  | "alnum" => .ofText "30-39 41-5a 61-7a"
  | "alpha" => .ofText "41-5a 61-7a"
  | "ascii" => .ofText "0-7f"
  | "blank" => .ofText "9 20"
  | "cntrl" => .ofText "0-1f 7f"
  | "digit" => .ofText "30-39"
  | "graph" => .ofText "21-7e"
  | "lower" => .ofText "61-7a"
  | "print" => .ofText "20-7e"
  | "punct" => .ofText "21-2f 3a-40 5b-60 7b-7e"
  | "space" => .ofText "9-d 20"
  | "upper" => .ofText "41-5a"
  | "word" => .ofText "30-39 41-5a 5f 61-7a"
  | "xdigit" => .ofText "30-39 41-46 61-66"
  | _ => []

def Shorthand.set (unicode : Bool) : Shorthand → CodeSet
  | .digit => if unicode then Unicode.digit else posixSet "digit"
  | .space => if unicode then Unicode.whiteSpace else posixSet "space"
  | .word => if unicode then Unicode.word else posixSet "word"

/-- The loose form of a property name: ASCII in lower case without blanks, hyphens, underscores and a
leading `is`. -/
def looseName (name : String) : String :=
  let isMark (c : Char) := c = ' ' || c = '_' || c = '-'
  let chars := name.toList
  let led := (chars.take 2).map Char.toLower == ['i', 's']
  let kept := ((if led then chars.drop 2 else chars).filter fun c =>
    !isMark c && c.toNat < 128).map Char.toLower
  if led && kept == ['c'] then "isc" else .ofList kept

def PropertyQuery.set? (query : PropertyQuery) : Option CodeSet :=
  match query with
  | .named name =>
    let name := looseName name
    let property := if name = "cf" ∨ name = "sc" ∨ name = "lc" then none else Unicode.property? name
    property <|> Unicode.category? name <|> Unicode.script? name
  | .valued name value =>
    let value := looseName value
    match looseName name with
    | "gc" | "generalcategory" => Unicode.category? value
    | "sc" | "script" => Unicode.script? value
    | "scx" | "scriptextensions" => Unicode.scriptExtension? value
    | "age" => Unicode.age? value
    | "gcb" | "graphemeclusterbreak" => Unicode.graphemeBreak? value
    | "sb" | "sentencebreak" => Unicode.sentenceBreak? value
    | "wb" | "wordbreak" => Unicode.wordBreak? value
    | _ => none

def ClassMode.literal (mode : ClassMode) (l : Literal) : Except Fault Nat :=
  if mode.unicode || l.char.toNat < 128 then .ok l.char.toNat
  else if l.byte then .error .notUtf8
  else .error .notUnicode

def ClassMode.item (mode : ClassMode) : ClassItem → Except Fault CodeSet
  | .literal l => do return .single (← mode.literal l)
  | .range first last => do return [⟨← mode.literal first, ← mode.literal last⟩]
  | .posix name negated => mode.finish negated (posixSet name)
  | .shorthand s negated => mode.negate negated (s.set mode.unicode)
  | .property query negated =>
    if !mode.unicode then .error .notUnicode
    else
      match query.set? with
      | none => .error .badProperty
      | some set => mode.finish negated set

def SetOperator.apply : SetOperator → CodeSet → CodeSet → CodeSet
  | .intersection, a, b => a.inter b
  | .difference, a, b => a.diff b
  | .symmetricDifference, a, b => a.symmDiff b

mutual

/-- The characters of a class, case being regarded at its outermost bracket and at operators. -/
def ClassMode.set (mode : ClassMode) : ClassSet → Except Fault CodeSet
  | .item i => mode.item i
  | .union parts => ClassMode.unionOf mode parts
  | .bracketed negated set =>
    match ClassMode.set mode set with
    | .ok set => mode.finish negated set
    | .error fault => .error fault
  | .combined op left right =>
    match ClassMode.set mode left with
    | .error fault => .error fault
    | .ok left =>
      match ClassMode.set mode right with
      | .error fault => .error fault
      | .ok right => .ok (op.apply (mode.fold left) (mode.fold right))

def ClassMode.unionOf (mode : ClassMode) : List ClassSet → Except Fault CodeSet
  | [] => .ok []
  | part :: rest =>
    match ClassMode.set mode part with
    | .error fault => .error fault
    | .ok part =>
      match ClassMode.unionOf mode rest with
      | .error fault => .error fault
      | .ok rest => .ok (part.union rest)

end

end ClaimRules.Regex
