import ClaimRules.Unicode.Case

/-! The guide that the command line prints, by topics. -/

namespace ClaimRules.Guide

inductive Topic where
  | verbs
  | variables
  | controlFlow
  | mappings
  deriving DecidableEq, Repr

def Topic.ofName? (name : String) : Option Topic :=
  let folded := (Unicode.lowerText name).toList.map fun c => if c = '-' then '_' else c
  match String.ofList folded with
  | "verbs" | "verb" => some .verbs
  | "variables" | "variable" | "vars" => some .variables
  | "control_flow" | "flow" | "exit" | "continue" => some .controlFlow
  | "mappings" | "mapping" => some .mappings
  | _ => none

def overviewLines : List String := [
  "IDPMAP DOCUMENTATION",
  "",
  "idpmap maps an identity provider assertion (a JSON document) onto a local",
  "claim by running rule programs against it. Rules are tried in order; the",
  "first rule that succeeds has its mapping evaluated and printed.",
  "",
  "DOCUMENTATION TOPICS",
  "",
  "  verbs             Every statement verb, its operands and effect",
  "  variables         Variable syntax, indexing, and reserved variables",
  "  control-flow      Rules, blocks, statements, exit and continue",
  "  mappings          Inline mappings, named mappings, and output",
  "",
  "QUICK REFERENCE",
  "",
  "  $name             Variable",
  "  $\x7bname\x7d           Variable delimited from surrounding text",
  "  $name[key]        Map entry or array element",
  "  $assertion        The assertion document",
  "",
  "Run 'idpmap doc <topic>' for detailed documentation."]

def verbLines : List String := [
  "VERBS",
  "",
  "A statement is a JSON array whose first element is the verb (any case)",
  "followed by its operands. Operands that are exactly a variable reference are",
  "looked up; everything else is used literally.",
  "",
  "ASSIGNMENT",
  "  [\"set\", $var, value]",
  "    Assigns value to $var.",
  "",
  "  [\"length\", $var, collection]",
  "    Number of characters, array elements, or map entries.",
  "",
  "  [\"interpolate\", $var, \"text with $\x7bvariables\x7d\"]",
  "    Substitutes variables into the text. The text is never itself looked up.",
  "",
  "COLLECTIONS",
  "  [\"append\", $array, value]",
  "    Appends value to the array in place.",
  "",
  "  [\"unique\", $var, array]",
  "    Removes duplicates, keeping the first occurrence of each value.",
  "",
  "  [\"split\", $var, string, pattern]",
  "    Splits string on a regular expression. Trailing empty pieces are dropped.",
  "",
  "  [\"join\", $var, array, conjunction]",
  "    Joins the elements with conjunction between them.",
  "",
  "  [\"lower\", $var, value]   [\"upper\", $var, value]",
  "    Case-folds a string, every string in an array, or every key of a map.",
  "",
  "TESTS (set the success flag)",
  "  [\"in\", member, collection]   [\"not_in\", member, collection]",
  "    Array membership, map key presence, or substring test.",
  "",
  "  [\"compare\", left, op, right]",
  "    op is one of == != < > <= >=. Both sides must have the same type.",
  "    Ordering works on strings, integers, and reals only.",
  "",
  "  [\"regexp\", string, pattern]",
  "    Searches string. Binds $regexp_array (all groups, group 0 first) and",
  "    $regexp_map (named groups). Both are empty when nothing matches.",
  "",
  "  [\"regexp_replace\", $var, string, pattern, replacement]",
  "    Replaces every match. The replacement may use $1 or $\x7bname\x7d.",
  "",
  "CONTROL",
  "  [\"exit\", rule_succeeds|rule_fails, criteria]",
  "  [\"continue\", criteria]",
  "    See 'idpmap doc control-flow'."]

def variableLines : List String := [
  "VARIABLES",
  "",
  "SYNTAX",
  "  $name               Plain reference",
  "  $\x7bname\x7d             Braces separate the name from following text",
  "  $name[index]        Array element (integer index) or map entry (key)",
  "  $\x7bname[index]\x7d      Same, delimited",
  "",
  "  Names start with a letter, followed by letters, digits, or underscores.",
  "  Indexes are letters, digits, or underscores. A backslash before $ stops",
  "  interpolation from treating it as a variable.",
  "",
  "LOOKUP ERRORS",
  "  Unknown variable, missing map key, index out of range  -> undefined value",
  "  Non-integer array index, indexing a scalar             -> invalid type",
  "",
  "RESERVED VARIABLES",
  "  assertion           Private copy of the assertion for this rule",
  "  rule_number         0-based position of the rule",
  "  rule_name           The rule's \"name\", or \"\"",
  "  block_number        0-based position of the current block",
  "  block_name          Always \"\"",
  "  statement_number    0-based position of the current statement",
  "  regexp_array        Groups of the last regexp",
  "  regexp_map          Named groups of the last regexp"]

def controlFlowLines : List String := [
  "CONTROL FLOW",
  "",
  "  A rule is a list of blocks; a block is a list of statements.",
  "",
  "  Statements run in order. The test verbs (compare, in, not_in, regexp) set",
  "  the success flag; every other verb leaves it true.",
  "",
  "EXIT",
  "  [\"exit\", status, criteria]",
  "    status:   rule_succeeds | rule_fails",
  "    criteria: if_success | if_not_success | always | never",
  "",
  "    Ends the whole rule when the criteria holds.",
  "",
  "CONTINUE",
  "  [\"continue\", criteria]",
  "    Skips the rest of the current block when the criteria holds.",
  "",
  "FALLING OFF THE END",
  "  A rule whose blocks all finish without an exit succeeds.",
  "",
  "RULE ORDER",
  "  Rules are tried in order, each with a fresh namespace and its own copy of",
  "  the assertion. The first success wins. If none succeed there is no result.",
  "  Any error stops the whole evaluation."]

def mappingLines : List String := [
  "MAPPINGS",
  "",
  "INLINE",
  "  \x7b\"statement_blocks\": [...], \"mapping\": \x7b\"role\": \"admin\", \"user\": \"$user\"\x7d\x7d",
  "",
  "  Each value is looked up like an operand once the rule succeeds, so it can",
  "  refer to anything the rule stored.",
  "",
  "NAMED",
  "  \x7b\"statement_blocks\": [...], \"mapping_name\": \"admins\"\x7d",
  "",
  "  The name is looked up in the table passed with --mappings:",
  "",
  "    \x7b\"admins\": \x7b\"role\": \"admin\", \"user\": \"$user\"\x7d\x7d",
  "",
  "  An inline mapping wins when both are present. A rule that succeeds without",
  "  either is an error.",
  "",
  "OUTPUT",
  "  idpmap map prints the mapping as JSON in the order its keys were written,",
  "  or null when no rule matched."]

def page (lines : List String) : String := String.join (lines.map (· ++ "\n"))

def overview : String := page overviewLines

def Topic.text : Topic → String
  | .verbs => page verbLines
  | .variables => page variableLines
  | .controlFlow => page controlFlowLines
  | .mappings => page mappingLines

end ClaimRules.Guide
