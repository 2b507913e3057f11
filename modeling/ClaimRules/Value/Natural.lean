import ClaimRules.Binary64.Layout
import ClaimRules.Value.Basic

/-! The natural form of values: the text that is spliced into templates and shown in diagnostics. -/

namespace ClaimRules.Value

/-- Reals are positional for exponents from -3 to 6; a tie goes to the larger digit. -/
def realLayout : Binary64.Layout := ⟨-3, 6, "E", false, true, .up⟩

def spellReal (x : Binary64) : List Char :=
  if x.isNaN then "NaN".toList
  else if x.isFinite then x.write realLayout
  else if x.isNegative then "-Infinity".toList
  else "Infinity".toList

def spellInt (n : Int) : List Char :=
  if n < 0 then '-' :: Nat.toDigits 10 n.natAbs else Nat.toDigits 10 n.natAbs

/-- Text between quotes; of its characters only the quotes are escaped. -/
def spellText (text : String) : List Char :=
  '"' :: text.toList.flatMap (fun c => if c = '"' then ['\\', '"'] else [c]) ++ ['"']

mutual

def spell : Value → List Char
  | .string text => spellText text
  | .array items => '[' :: spellItems items ++ [']']
  | .map entries => '\x7b' :: spellEntries entries ++ ['\x7d']
  | .integer n => spellInt n.toInt
  | .real x => spellReal x
  | .boolean b => if b then "true".toList else "false".toList
  | .null => "null".toList

def spellItems : List Value → List Char
  | [] => []
  | [item] => spell item
  | item :: rest => spell item ++ ',' :: ' ' :: spellItems rest

def spellEntries : List (String × Value) → List Char
  | [] => []
  | [(key, value)] => spellText key ++ ':' :: ' ' :: spell value
  | (key, value) :: rest =>
    spellText key ++ ':' :: ' ' :: spell value ++ ',' :: ' ' :: spellEntries rest

end

def natural (value : Value) : String := .ofList (spell value)

/-- Strings stand for themselves, all other values for their natural form. -/
def splice : Value → String
  | .string text => text
  | value => natural value

end ClaimRules.Value
