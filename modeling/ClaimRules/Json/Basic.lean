import ClaimRules.Binary64.Basic
import ClaimRules.Digits

/-! Documents of the JSON data model. Whole numbers that fit a signed word, larger ones that fit an
unsigned word, and all other numbers are kept apart. -/

namespace ClaimRules

inductive Json where
  | null
  | boolean (b : Bool)
  | integer (n : Int64)
  | large (n : UInt64) (above : signedLimit ≤ n.toNat)
  | real (x : Binary64) (finite : x.isFinite = true)
  | string (text : String)
  | array (items : List Json)
  | object (entries : List (String × Json))

namespace Json

mutual

def depth : Json → Nat
  | .array items => depthOfItems items + 1
  | .object entries => depthOfEntries entries + 1
  | _ => 0

def depthOfItems : List Json → Nat
  | [] => 0
  | item :: rest => max (depth item) (depthOfItems rest)

def depthOfEntries : List (String × Json) → Nat
  | [] => 0
  | (_, value) :: rest => max (depth value) (depthOfEntries rest)

end

end Json
end ClaimRules
