import ClaimRules.Unicode.CodeSet

/-! Sets of code points under the names of a standard. Names are in loose form: lower case, without
blanks, hyphens and underscores. -/

namespace ClaimRules.Unicode

structure NamedSet where
  names : List String
  lines : List String
  deriving DecidableEq, Repr

namespace NamedSet

def codes (s : NamedSet) : CodeSet := .ofLines s.lines

def find? (sets : List NamedSet) (name : String) : Option CodeSet :=
  (sets.find? fun s => s.names.contains name).map codes

end NamedSet
end ClaimRules.Unicode
