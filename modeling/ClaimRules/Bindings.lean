import ClaimRules.Value.Basic

/-! Variable bindings of one attempt at a rule. -/

namespace ClaimRules

abbrev Bindings := Entries Value

namespace Bindings

def assertionName : String := "assertion"

def ruleNumberName : String := "rule_number"

def ruleNameName : String := "rule_name"

def blockNumberName : String := "block_number"

def blockNameName : String := "block_name"

def statementNumberName : String := "statement_number"

def regexpArrayName : String := "regexp_array"

def regexpMapName : String := "regexp_map"

def bind (bindings : Bindings) (name : String) (value : Value) : Bindings :=
  Entries.insert name value bindings

def number (n : Nat) : Value := .integer (Int64.ofNat n)

def forRule (ruleNumber : Nat) (ruleName : String) (assertion : Value) : Bindings :=
  [(ruleNumberName, number ruleNumber), (ruleNameName, .string ruleName),
    (assertionName, assertion)]

def enterBlock (bindings : Bindings) (blockNumber : Nat) : Bindings :=
  (bindings.bind blockNumberName (number blockNumber)).bind blockNameName (.string "")

def enterStatement (bindings : Bindings) (statementNumber : Nat) : Bindings :=
  bindings.bind statementNumberName (number statementNumber)

end Bindings
end ClaimRules
