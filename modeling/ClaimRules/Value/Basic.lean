import ClaimRules.Binary64.Basic
import ClaimRules.Entries

/-! Values that rules work on. -/

namespace ClaimRules

inductive Value where
  | string (text : String)
  | array (items : List Value)
  | map (entries : List (String × Value))
  | integer (n : Int64)
  | real (x : Binary64)
  | boolean (b : Bool)
  | null

inductive Kind where
  | string
  | array
  | map
  | integer
  | boolean
  | null
  | real
  deriving DecidableEq, Repr

def Kind.name : Kind → String
  | .string => "STRING"
  | .array => "ARRAY"
  | .map => "MAP"
  | .integer => "INTEGER"
  | .boolean => "BOOLEAN"
  | .null => "NULL"
  | .real => "REAL"

namespace Value

def kind : Value → Kind
  | .string _ => .string
  | .array _ => .array
  | .map _ => .map
  | .integer _ => .integer
  | .real _ => .real
  | .boolean _ => .boolean
  | .null => .null

def text? : Value → Option String
  | .string text => some text
  | _ => none

mutual

/-- Equality as rules see it: whole numbers and reals are never equal, and the order of the entries
of a map does not count. -/
def same : Value → Value → Bool
  | .string a, .string b => a == b
  | .array a, .array b => sameItems a b
  | .map a, .map b => a.length == b.length && sameEntries a b
  | .integer a, .integer b => a == b
  | .real a, .real b => a.same b
  | .boolean a, .boolean b => a == b
  | .null, .null => true
  | _, _ => false

def sameItems : List Value → List Value → Bool
  | [], [] => true
  | a :: as, b :: bs => same a b && sameItems as bs
  | _, _ => false

def sameEntries : List (String × Value) → List (String × Value) → Bool
  | [], _ => true
  | (key, a) :: rest, b =>
    (match Entries.get? b key with
      | some v => same a v
      | none => false) && sameEntries rest b

end

def isAmong (value : Value) (items : List Value) : Bool := items.any fun item => same item value

end Value
end ClaimRules
