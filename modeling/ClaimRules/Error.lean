import ClaimRules.Json.Printer
import ClaimRules.Json.Reader
import ClaimRules.Regex.Expr
import ClaimRules.Statement

/-! Errors of loading and evaluating rules, by their causes. -/

namespace ClaimRules

inductive LookupFault where
  | unbound (name : String)
  | missingKey (name index : String)
  | outOfBounds (name : String) (size : Nat) (index : Int)
  | badIndex (name index : String)
  | notIndexable (name index : String) (kind : Kind)
  | constantTarget

inductive ShapeFault where
  | largeInteger (n : UInt64)
  | ruleList
  | rule (found : Json)
  | ruleName (found : Json)
  | blockList (found : Json)
  | block (found : Json)
  | statement (found : Json)
  | inlineMapping (found : Json)
  | mapping (found : Json)
  | mappingName (found : Json)
  | mappingTable

inductive StatementFault where
  | noVerb
  | verbKind (kind : Kind)
  | unknownVerb (name : String)
  | missingItem (verb : Verb) (index available : Nat)
  | notReference (verb : Verb) (index : Nat) (statement : Statement)
  | operandKind (verb : Verb) (index : Nat) (allowed : List Kind) (found : Kind)
      (statement : Statement)
  | appendTarget (found : Kind)
  | memberKind (verb : Verb) (collection : Kind)
  | kindsDiffer (left right : Kind)
  | unordered (operator : String) (kind : Kind)
  | unknownOperator (operator : String)
  | unknownCriteria (verb : Verb) (name : String)
  | unknownStatus (name : String)
  | badPattern (verb : Verb) (pattern : String) (fault : Regex.Fault)
  | itemNotString (verb : Verb) (item : Value) (items : List Value)

inductive RuleFault where
  | assertionKind (kind : Kind)
  | noBlocks
  | noMapping (ruleId : String)
  | unknownMapping (ruleId name : String)

inductive FileFault where
  | missing
  | notText
  deriving DecidableEq, Repr

inductive Error where
  | lookup (fault : LookupFault)
  | shape (fault : ShapeFault)
  | statement (fault : StatementFault)
  | rule (fault : RuleFault)
  | json (fault : Json.Fault)
  | file (fault : FileFault)
  | inItem (index : Nat) (cause : Error)
  | inStatement (id text : String) (cause : Error)
  | inMapping (ruleId key operand : String) (cause : Error)

inductive ErrorKind where
  | invalidRule
  | invalidType
  | invalidValue
  | undefinedValue
  | badItem
  | json
  | file
  deriving DecidableEq, Repr

namespace ErrorKind

def heading : ErrorKind → String
  | .invalidRule => "invalid rule: "
  | .invalidType => "invalid type: "
  | .invalidValue => "invalid value: "
  | .undefinedValue => "undefined value: "
  | .badItem => ""
  | .json => "invalid JSON: "
  | .file => "IO error: "

end ErrorKind

namespace LookupFault

def kind : LookupFault → ErrorKind
  | .unbound _ => .undefinedValue
  | .missingKey _ _ => .undefinedValue
  | .outOfBounds _ _ _ => .undefinedValue
  | .badIndex _ _ => .invalidType
  | .notIndexable _ _ _ => .invalidType
  | .constantTarget => .invalidType

def message : LookupFault → String
  | .unbound name => "variable '" ++ name ++ "' not defined"
  | .missingKey name index =>
    "variable '" ++ name ++ "' is a map indexed by '" ++ index ++
      "', however the index does not exist"
  | .outOfBounds name size index =>
    "variable '" ++ name ++ "' is an array of size " ++ toString size ++ " indexed by '" ++
      toString index ++ "', however the index is out of bounds"
  | .badIndex name index =>
    "variable '" ++ name ++ "' is an array indexed by '" ++ index ++
      "', however the index cannot be converted to an integer"
  | .notIndexable name index kind =>
    "variable '" ++ name ++ "' is indexed by '" ++ index ++
      "', variable must be an array or map, not " ++ kind.name
  | .constantTarget => "cannot assign to a constant"

end LookupFault

namespace ShapeFault

def message : ShapeFault → String
  | .largeInteger n => "integer " ++ toString n ++ " does not fit in a signed 64-bit value"
  | .ruleList => "rules must be a JSON array of rule objects"
  | .rule found => "rule must be an object, not " ++ found.compact
  | .ruleName found => "rule defines 'name' but it is not a string: " ++ found.compact
  | .blockList found =>
    "rule defines 'statement_blocks' but it is not an array: " ++ found.compact
  | .block found => "statement block must be an array, not " ++ found.compact
  | .statement found => "statement must be an array, not " ++ found.compact
  | .inlineMapping found => "rule defines 'mapping' but it is not a Map: " ++ found.compact
  | .mapping found => "mapping must be an object, not " ++ found.compact
  | .mappingName found => "rule defines 'mapping_name' but it is not a string: " ++ found.compact
  | .mappingTable => "mapping table must be a JSON object of mappings"

end ShapeFault

namespace StatementFault

def kind : StatementFault → ErrorKind
  | .notReference _ _ _ => .invalidType
  | .operandKind _ _ _ _ _ => .invalidType
  | .appendTarget _ => .invalidType
  | .memberKind _ _ => .invalidType
  | .kindsDiffer _ _ => .invalidType
  | .badPattern _ _ _ => .invalidValue
  | .itemNotString _ _ _ => .invalidValue
  | _ => .invalidRule

def message : StatementFault → String
  | .noVerb => "statement has no verb"
  | .verbKind kind => "statement first member (i.e. verb) must be a string, not " ++ kind.name
  | .unknownVerb name => "unknown verb '" ++ name ++ "'"
  | .missingItem verb index available =>
    "verb '" ++ verb.name ++ "' requires at least " ++ toString (index + 1) ++
      " items but only " ++ toString available ++ " are available."
  | .notReference verb index statement =>
    "verb '" ++ verb.name ++ "' requires parameter #" ++ toString index ++
      " to be a variable not CONSTANT. statement=" ++ statement.text
  | .operandKind verb index allowed found statement =>
    "verb '" ++ verb.name ++ "' requires parameter #" ++ toString index ++ " to have types [" ++
      ", ".intercalate (allowed.map Kind.name) ++ "], not " ++ found.name ++ ". statement=" ++
      statement.text
  | .appendTarget found => "verb 'append' requires an array target, not " ++ found.name
  | .memberKind verb collection =>
    "verb '" ++ verb.name ++ "' requires parameter #1 to be a STRING when parameter #2 is a " ++
      collection.name
  | .kindsDiffer left right =>
    "verb 'compare' both items must have the same type left is " ++ left.name ++
      " and right is " ++ right.name
  | .unordered operator kind => "operator " ++ operator ++ " not supported for type " ++ kind.name
  | .unknownOperator operator =>
    "verb 'compare' has unknown comparison operator '" ++ operator ++ "'"
  | .unknownCriteria verb name =>
    "verb='" ++ verb.name ++ "' unknown " ++ verb.name ++ " criteria '" ++ name ++ "'"
  | .unknownStatus name => "verb='exit' unknown exit status '" ++ name ++ "'"
  | .badPattern verb pattern fault =>
    "verb '" ++ verb.name ++ "' failed, bad regular expression pattern '" ++ pattern ++
      "', regex parse error: " ++ fault.message
  | .itemNotString verb item items =>
    "verb '" ++ verb.name ++ "' failed, array item (" ++ item.natural ++
      ") is not a string, array=" ++ (Value.array items).natural

end StatementFault

namespace RuleFault

def message : RuleFault → String
  | .assertionKind kind => "assertion must be a JSON object, not " ++ kind.name
  | .noBlocks => "rule missing 'statement_blocks'"
  | .noMapping ruleId =>
    ruleId ++ " rule does not define mapping nor mapping_name unable to load mapping"
  | .unknownMapping ruleId name =>
    ruleId ++ " rule specifies mapping_name '" ++ name ++
      "' but a mapping by that name does not exist, unable to load mapping"

end RuleFault

def FileFault.message : FileFault → String
  | .missing => "No such file or directory (os error 2)"
  | .notText => "stream did not contain valid UTF-8"

namespace Error

def kind : Error → ErrorKind
  | .lookup fault => fault.kind
  | .shape _ => .invalidRule
  | .statement fault => fault.kind
  | .rule _ => .invalidRule
  | .json _ => .json
  | .file _ => .file
  | .inItem _ _ => .badItem
  | .inStatement _ _ cause => cause.kind
  | .inMapping _ _ _ cause => cause.kind

def message : Error → String
  | .lookup fault => fault.kind.heading ++ fault.message
  | .shape fault => ErrorKind.invalidRule.heading ++ fault.message
  | .statement fault => fault.kind.heading ++ fault.message
  | .rule fault => ErrorKind.invalidRule.heading ++ fault.message
  | .json fault => ErrorKind.json.heading ++ fault.message
  | .file fault => ErrorKind.file.heading ++ fault.message
  | .inItem index cause => "parameter " ++ toString index ++ ", " ++ cause.message
  | .inStatement id text cause => id ++ " statement=" ++ text ++ " " ++ cause.message
  | .inMapping ruleId key operand cause =>
    ruleId ++ " unable to get value for mapping " ++ key ++ "=" ++ operand ++ ", " ++
      cause.message

end Error
end ClaimRules
