import ClaimRules.Json.Printer
import ClaimRules.Value.Basic

/-! Values as JSON documents. -/

namespace ClaimRules.Value

mutual

def ofJson : Json → Except UInt64 Value
  | .null => .ok .null
  | .boolean b => .ok (.boolean b)
  | .integer n => .ok (.integer n)
  | .large n _ => .error n
  | .real x _ => .ok (.real x)
  | .string text => .ok (.string text)
  | .array items =>
    match ofJsonItems items with
    | .ok items => .ok (.array items)
    | .error n => .error n
  | .object entries =>
    match ofJsonEntries entries with
    | .ok entries => .ok (.map entries)
    | .error n => .error n

def ofJsonItems : List Json → Except UInt64 (List Value)
  | [] => .ok []
  | item :: rest =>
    match ofJson item with
    | .error n => .error n
    | .ok item =>
      match ofJsonItems rest with
      | .error n => .error n
      | .ok rest => .ok (item :: rest)

def ofJsonEntries : List (String × Json) → Except UInt64 (List (String × Value))
  | [] => .ok []
  | (key, doc) :: rest =>
    match ofJson doc with
    | .error n => .error n
    | .ok value =>
      match ofJsonEntries rest with
      | .error n => .error n
      | .ok rest => .ok ((key, value) :: rest)

end

mutual

def toJson : Value → Json
  | .null => .null
  | .boolean b => .boolean b
  | .integer n => .integer n
  | .real x => if h : x.isFinite = true then .real x h else .null
  | .string text => .string text
  | .array items => .array (toJsonItems items)
  | .map entries => .object (toJsonEntries entries)

def toJsonItems : List Value → List Json
  | [] => []
  | item :: rest => toJson item :: toJsonItems rest

def toJsonEntries : List (String × Value) → List (String × Json)
  | [] => []
  | (key, value) :: rest => (key, toJson value) :: toJsonEntries rest

end

def compactJson (value : Value) : String := value.toJson.compact

def prettyJson (value : Value) : String := value.toJson.pretty

end ClaimRules.Value
