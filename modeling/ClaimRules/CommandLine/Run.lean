import ClaimRules.CommandLine.Arguments
import ClaimRules.CommandLine.Guide
import ClaimRules.Evaluation

/-! The commands of the command line, as functions of the files and the input that they read. -/

namespace ClaimRules.CommandLine

inductive Failure where
  | evaluation (e : Error)
  | input (fault : FileFault)
  | noInput
  | unknownTopic (name : String)

def Failure.message : Failure → String
  | .evaluation e => "Evaluation error: " ++ e.message
  | .input fault => "IO error: " ++ fault.message
  | .noInput => "No assertion provided. Use --assertion or pipe JSON to stdin."
  | .unknownTopic name =>
    "Unknown topic: '" ++ name ++ "'\nRun 'idpmap docs' to see available topics."

def evaluating {α : Type} (result : Except Error α) : Except Failure α :=
  match result with
  | .ok a => .ok a
  | .error e => .error (.evaluation e)

def map (rules : Document) (mappings : Option Document) (assertion : Option String) :
    Except Failure (Option Claim) := do
  match assertion with
  | none => throw .noInput
  | some assertion =>
    let rules ← evaluating (Rule.loadFile rules)
    let mappings ←
      match mappings with
      | none => pure []
      | some mappings => evaluating (MappingTable.loadFile mappings)
    evaluating (RuleBook.evaluateText ⟨rules, mappings, .initial⟩ assertion).result

structure Summary where
  rules : Nat
  blocks : Nat
  statements : Nat
  deriving DecidableEq, Repr

def blocksOf (rules : List Rule) : List Block := rules.flatMap fun rule => rule.blocks.getD []

def checkStatements : List Statement → Except Error Unit
  | [] => .ok ()
  | s :: rest =>
    match s.verb with
    | .ok _ => checkStatements rest
    | .error e => .error e

def check (rules : Document) : Except Failure Summary := do
  let rules ← evaluating (Rule.loadFile rules)
  let blocks := blocksOf rules
  evaluating (checkStatements blocks.flatten)
  return ⟨rules.length, blocks.length, blocks.flatten.length⟩

def topicText (name : String) : Except Failure String :=
  match Guide.Topic.ofName? name with
  | some topic => .ok topic.text
  | none => .error (.unknownTopic name)

def claimText (pretty : Bool) : Option Claim → String
  | none => "null\n"
  | some claim =>
    (if pretty then (Value.map claim).prettyJson else (Value.map claim).compactJson) ++ "\n"

def Summary.text (s : Summary) : String :=
  "Rules are valid: " ++ toString s.rules ++ " rules, " ++ toString s.blocks ++ " blocks, " ++
    toString s.statements ++ " statements\n"

def assertionOf (given : Option String) (input : Option Document) :
    Except Failure (Option String) :=
  match given, input with
  | some text, _ => .ok (some text)
  | none, none => .ok none
  | none, some .missing => .error (.input .missing)
  | none, some (.content bytes) =>
    match String.fromUTF8? bytes with
    | some text => .ok (some text)
    | none => .error (.input .notText)

def Command.output (file : String → Document) (input : Option Document) :
    Command → Except Failure String
  | .map rules mappings assertion pretty => do
    let assertion ← assertionOf assertion input
    return claimText pretty (← CommandLine.map (file rules) (mappings.map file) assertion)
  | .check rules => do return (← CommandLine.check (file rules)).text
  | .docs => .ok Guide.overview
  | .doc topic => topicText topic

def Command.files : Command → List String
  | .map rules mappings _ _ => rules :: mappings.toList
  | .check rules => [rules]
  | .docs => []
  | .doc _ => []

structure Report where
  exit : Nat
  out : String
  err : String
  deriving DecidableEq, Repr

def usage : String :=
  Guide.page [
    "Usage: idpmap <COMMAND>",
    "",
    "Commands:",
    "  map    Evaluate a rule file against an assertion",
    "  check  Validate a rule file without evaluating it",
    "  docs   List documentation topics",
    "  doc    Show documentation for a specific topic"]

def Refusal.report : Refusal → Report
  | .help => ⟨0, usage, ""⟩
  | .version => ⟨0, "idpmap 0.2.0\n", ""⟩
  | .misuse => ⟨2, "", usage⟩

def Command.report (file : String → Document) (input : Option Document) (command : Command) :
    Report :=
  match command.output file input with
  | .ok out => ⟨0, out, ""⟩
  | .error failure => ⟨1, "", failure.message ++ "\n"⟩

def run (file : String → Document) (input : Option Document) (arguments : List String) : Report :=
  match parse arguments with
  | .error refusal => refusal.report
  | .ok command => command.report file input

end ClaimRules.CommandLine
