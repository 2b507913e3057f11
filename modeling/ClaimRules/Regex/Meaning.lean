import ClaimRules.Regex.CharClass
import ClaimRules.Regex.Pattern

/-! The pattern that an expression means under flags. Flags that change inside a group hold until its
end, in later branches too. -/

namespace ClaimRules.Regex

structure Flags where
  ignoreCase : Bool
  multiLine : Bool
  dotAll : Bool
  swapGreed : Bool
  unicode : Bool
  crlf : Bool

namespace Flags

def initial : Flags := ⟨false, false, false, false, true, false⟩

def set (flags : Flags) : Flag × Bool → Flags
  | (.ignoreCase, on) => { flags with ignoreCase := on }
  | (.multiLine, on) => { flags with multiLine := on }
  | (.dotAll, on) => { flags with dotAll := on }
  | (.swapGreed, on) => { flags with swapGreed := on }
  | (.unicode, on) => { flags with unicode := on }
  | (.crlf, on) => { flags with crlf := on }
  | (.extended, _) => flags

def apply (flags : Flags) (changes : FlagChanges) : Flags := changes.foldl set flags

def classMode (flags : Flags) : ClassMode := ⟨flags.unicode, flags.ignoreCase⟩

def literal (flags : Flags) (l : Literal) : Except Fault Pattern :=
  if !flags.unicode && l.byte && 128 ≤ l.char.toNat then .error .notUtf8
  else if flags.ignoreCase && (flags.unicode || l.char.toNat < 128) then
    .ok (.ofSet (flags.classMode.fold (.single l.char.toNat)))
  else .ok (.literal [l.char])

def dot (flags : Flags) : Except Fault Pattern :=
  if !flags.unicode then .error .notUtf8
  else if flags.dotAll then .ok (.oneOf .full)
  else if flags.crlf then .ok (.oneOf (Unicode.CodeSet.compl [⟨0xa, 0xa⟩, ⟨0xd, 0xd⟩]))
  else .ok (.oneOf (Unicode.CodeSet.compl [⟨0xa, 0xa⟩]))

def anchor (flags : Flags) : Assertion → Anchor
  | .lineStart =>
    if flags.multiLine then if flags.crlf then .crlfLineStart else .lineStart else .textStart
  | .lineEnd =>
    if flags.multiLine then if flags.crlf then .crlfLineEnd else .lineEnd else .textEnd
  | .textStart => .textStart
  | .textEnd => .textEnd
  | .wordBoundary => .wordBoundary flags.unicode
  | .notWordBoundary => .notWordBoundary flags.unicode
  | .wordStart => .wordStart flags.unicode
  | .wordEnd => .wordEnd flags.unicode
  | .wordStartHalf => .wordStartHalf flags.unicode
  | .wordEndHalf => .wordEndHalf flags.unicode

end Flags

namespace Expr

mutual

/-- The pattern of an expression, and the flags that hold after it. -/
def meaning (flags : Flags) : Expr → Except Fault (Pattern × Flags)
  | .empty => .ok (.empty, flags)
  | .flags changes => .ok (.empty, flags.apply changes)
  | .literal l =>
    match flags.literal l with
    | .ok p => .ok (p, flags)
    | .error fault => .error fault
  | .dot =>
    match flags.dot with
    | .ok p => .ok (p, flags)
    | .error fault => .error fault
  | .assertion a => .ok (.anchor (flags.anchor a), flags)
  | .item i =>
    match flags.classMode.item i with
    | .ok set => .ok (.ofSet set, flags)
    | .error fault => .error fault
  | .bracketed negated set =>
    match flags.classMode.set set with
    | .error fault => .error fault
    | .ok set =>
      match flags.classMode.finish negated set with
      | .ok set => .ok (.ofSet set, flags)
      | .error fault => .error fault
  | .repeated least most greedy body =>
    match meaning flags body with
    | .ok (p, after) => .ok (.repeating least most (greedy != after.swapGreed) p, after)
    | .error fault => .error fault
  | .group (.capture index name) body =>
    match meaning flags body with
    | .ok (p, _) => .ok (.group index name p, flags)
    | .error fault => .error fault
  | .group (.plain changes) body =>
    match meaning (flags.apply changes) body with
    | .ok (p, _) => .ok (p, flags)
    | .error fault => .error fault
  | .choice branches =>
    match meanings flags branches with
    | .ok (ps, after) => .ok (.choosing ps, after)
    | .error fault => .error fault
  | .sequence parts =>
    match meanings flags parts with
    | .ok (ps, after) => .ok (.sequencing ps, after)
    | .error fault => .error fault

def meanings (flags : Flags) : List Expr → Except Fault (List Pattern × Flags)
  | [] => .ok ([], flags)
  | part :: rest =>
    match meaning flags part with
    | .error fault => .error fault
    | .ok (p, after) =>
      match meanings after rest with
      | .ok (ps, after) => .ok (p :: ps, after)
      | .error fault => .error fault

end

def pattern (e : Expr) : Except Fault Pattern := (meaning .initial e).map Prod.fst

end Expr
end ClaimRules.Regex
