import ClaimRules.Error
import ClaimRules.Reference.Basic
import ClaimRules.Value.Json

/-! Rules and mappings, and their JSON documents. -/

namespace ClaimRules

abbrev Mapping := Entries Operand

abbrev MappingTable := Entries Mapping

abbrev Block := List Statement

structure Rule where
  name : Option String
  blocks : Option (List Block)
  /-- A mapping of the rule's own, which goes before a named one. -/
  mapping : Option Mapping
  mappingName : Option String

def mapItems {α β ε : Type} (f : α → Except ε β) : List α → Except ε (List β)
  | [] => .ok []
  | item :: rest =>
    match f item with
    | .error e => .error e
    | .ok item =>
      match mapItems f rest with
      | .error e => .error e
      | .ok rest => .ok (item :: rest)

def Value.load (doc : Json) : Except Error Value :=
  match Value.ofJson doc with
  | .ok value => .ok value
  | .error n => .error (.shape (.largeInteger n))

namespace Statement

def loadItems : Nat → List Json → Except Error (List Value)
  | _, [] => .ok []
  | index, doc :: rest =>
    match Value.load doc with
    | .error e => .error (.inItem index e)
    | .ok value =>
      match loadItems (index + 1) rest with
      | .error e => .error e
      | .ok rest => .ok (value :: rest)

def load : Json → Except Error Statement
  | .array items =>
    match loadItems 0 items with
    | .ok items => .ok ⟨items⟩
    | .error e => .error e
  | found => .error (.shape (.statement found))

end Statement

namespace Block

def load : Json → Except Error Block
  | .array statements => mapItems Statement.load statements
  | found => .error (.shape (.block found))

end Block

namespace Mapping

def loadEntry (entry : String × Json) : Except Error (String × Operand) :=
  match Value.load entry.2 with
  | .ok value => .ok (entry.1, Operand.ofValue value)
  | .error e => .error e

def load : Json → Except Error Mapping
  | .object entries => mapItems loadEntry entries
  | found => .error (.shape (.mapping found))

end Mapping

namespace Rule

/-- A part that is absent or null is missing. -/
def part? (entries : Entries Json) (key : String) : Option Json :=
  match Entries.get? entries key with
  | some .null => none
  | found => found

def loadString (fault : Json → ShapeFault) : Option Json → Except Error (Option String)
  | none => .ok none
  | some (.string text) => .ok (some text)
  | some found => .error (.shape (fault found))

def loadBlocks : Option Json → Except Error (Option (List Block))
  | none => .ok none
  | some (.array blocks) => (mapItems Block.load blocks).map some
  | some found => .error (.shape (.blockList found))

def loadMapping : Option Json → Except Error (Option Mapping)
  | none => .ok none
  | some (.object entries) => (Mapping.load (.object entries)).map some
  | some found => .error (.shape (.inlineMapping found))

/-- A rule without blocks or without any mapping loads, and fails when it is evaluated. -/
def load : Json → Except Error Rule
  | .object entries => do
    let name ← loadString .ruleName (part? entries "name")
    let blocks ← loadBlocks (part? entries "statement_blocks")
    let mapping ← loadMapping (part? entries "mapping")
    let mappingName ← loadString .mappingName (part? entries "mapping_name")
    return ⟨name, blocks, mapping, mappingName⟩
  | found => .error (.shape (.rule found))

def loadAll : Json → Except Error (List Rule)
  | .array rules => mapItems load rules
  | _ => .error (.shape .ruleList)

end Rule

namespace MappingTable

def loadEntry (entry : String × Json) : Except Error (String × Mapping) :=
  match Mapping.load entry.2 with
  | .ok mapping => .ok (entry.1, mapping)
  | .error e => .error e

def load : Json → Except Error MappingTable
  | .object entries => mapItems loadEntry entries
  | _ => .error (.shape .mappingTable)

end MappingTable

inductive Document where
  | missing
  | content (bytes : ByteArray)

namespace Document

def ofText (text : String) : Document := .content text.toUTF8

def text : Document → Except Error String
  | .missing => .error (.file .missing)
  | .content bytes =>
    match String.fromUTF8? bytes with
    | some text => .ok text
    | none => .error (.file .notText)

end Document

def Json.ofText (text : String) : Except Error Json :=
  match Json.parse text with
  | .ok doc => .ok doc
  | .error fault => .error (.json fault)

def Json.ofBytes (bytes : ByteArray) : Except Error Json :=
  match Json.parseBytes bytes with
  | .ok doc => .ok doc
  | .error fault => .error (.json fault)

namespace Rule

def loadText (text : String) : Except Error (List Rule) := do loadAll (← Json.ofText text)

def loadBytes (bytes : ByteArray) : Except Error (List Rule) := do loadAll (← Json.ofBytes bytes)

def loadFile (doc : Document) : Except Error (List Rule) := do loadText (← doc.text)

end Rule

namespace MappingTable

def loadText (text : String) : Except Error MappingTable := do load (← Json.ofText text)

def loadFile (doc : Document) : Except Error MappingTable := do loadText (← doc.text)

end MappingTable
end ClaimRules
