/-! Regular expressions as they are written. -/

namespace ClaimRules.Regex

inductive Fault where
  | badCaptureName
  | badClassRange
  | badCount
  | badEscape
  | badFlag
  | badHex
  | badProperty
  | badWordBoundary
  | backreference
  | classMember
  | duplicateFlag
  | duplicateName
  | lookAround
  | missingOperand
  | missingCount
  | nestedTooDeeply
  | notUnicode
  | notUtf8
  | unclosedClass
  | unclosedCount
  | unclosedGroup
  | unexpectedEnd
  | unopenedGroup
  deriving DecidableEq, Repr

def Fault.message : Fault → String
  | .badCaptureName => "invalid capture group name"
  | .badClassRange => "invalid character class range"
  | .badCount => "invalid repetition count"
  | .badEscape => "unrecognized escape sequence"
  | .badFlag => "unrecognized flag"
  | .badHex => "invalid hexadecimal character"
  | .badProperty => "Unicode property not found"
  | .badWordBoundary => "unrecognized word boundary assertion"
  | .backreference => "backreferences are not supported"
  | .classMember => "invalid escape sequence found in character class"
  | .duplicateFlag => "duplicate flag"
  | .duplicateName => "duplicate capture group name"
  | .lookAround => "look-around is not supported"
  | .missingOperand => "repetition operator missing expression"
  | .missingCount => "repetition quantifier expects a valid decimal"
  | .nestedTooDeeply => "exceeded the maximum nesting depth"
  | .notUnicode => "Unicode not allowed here"
  | .notUtf8 => "pattern can match invalid UTF-8"
  | .unclosedClass => "unclosed character class"
  | .unclosedCount => "unclosed counted repetition"
  | .unclosedGroup => "unclosed group"
  | .unexpectedEnd => "unexpected end of pattern"
  | .unopenedGroup => "unopened group"

inductive Flag where
  | ignoreCase
  | multiLine
  | dotAll
  | swapGreed
  | unicode
  | crlf
  | extended
  deriving DecidableEq, Repr

abbrev FlagChanges := List (Flag × Bool)

inductive Shorthand where
  | digit
  | space
  | word
  deriving DecidableEq, Repr

inductive PropertyQuery where
  | named (name : String)
  | valued (name value : String)
  deriving DecidableEq, Repr

/-- A character, and whether it is written as a byte of two hexadecimal digits. -/
structure Literal where
  char : Char
  byte : Bool
  deriving DecidableEq, Repr

/-- A part of a class that is not itself a bracketed class. -/
inductive ClassItem where
  | literal (l : Literal)
  | range (first last : Literal)
  | posix (name : String) (negated : Bool)
  | shorthand (s : Shorthand) (negated : Bool)
  | property (q : PropertyQuery) (negated : Bool)
  deriving DecidableEq, Repr

inductive SetOperator where
  | intersection
  | difference
  | symmetricDifference
  deriving DecidableEq, Repr

inductive ClassSet where
  | item (i : ClassItem)
  | union (parts : List ClassSet)
  | bracketed (negated : Bool) (set : ClassSet)
  | combined (op : SetOperator) (left right : ClassSet)

inductive Assertion where
  | lineStart
  | lineEnd
  | textStart
  | textEnd
  | wordBoundary
  | notWordBoundary
  | wordStart
  | wordEnd
  | wordStartHalf
  | wordEndHalf
  deriving DecidableEq, Repr

inductive GroupKind where
  | capture (index : Nat) (name : Option String)
  | plain (changes : FlagChanges)
  deriving DecidableEq, Repr

inductive Expr where
  | empty
  | flags (changes : FlagChanges)
  | literal (l : Literal)
  | dot
  | assertion (a : Assertion)
  | item (i : ClassItem)
  | bracketed (negated : Bool) (set : ClassSet)
  | repeated (least : Nat) (most : Option Nat) (greedy : Bool) (body : Expr)
  | group (kind : GroupKind) (body : Expr)
  | choice (branches : List Expr)
  | sequence (parts : List Expr)

namespace ClassSet

def ofParts : List ClassSet → ClassSet
  | [part] => part
  | parts => .union parts

mutual

def depth : ClassSet → Nat
  | .item _ => 0
  | .union [] => 0
  | .union parts => depthOfParts parts + 1
  | .bracketed _ set => depth set + 1
  | .combined _ left right => max (depth left) (depth right) + 1

def depthOfParts : List ClassSet → Nat
  | [] => 0
  | part :: rest => max (depth part) (depthOfParts rest)

end

end ClassSet

namespace Expr

def ofParts : List Expr → Expr
  | [] => .empty
  | [part] => part
  | parts => .sequence parts

mutual

def depth : Expr → Nat
  | .bracketed _ set => set.depth + 1
  | .repeated _ _ _ body => depth body + 1
  | .group _ body => depth body + 1
  | .choice branches => depthOfParts branches + 1
  | .sequence parts => depthOfParts parts + 1
  | _ => 0

def depthOfParts : List Expr → Nat
  | [] => 0
  | part :: rest => max (depth part) (depthOfParts rest)

end

end Expr
end ClaimRules.Regex
