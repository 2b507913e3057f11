import ClaimRules.Bindings
import ClaimRules.Digits
import ClaimRules.Error
import ClaimRules.Reference.Template

/-! Where references lead among the bindings: reading, and writing in place. -/

namespace ClaimRules

/-- A value among bindings, with the way to put another one in its place. -/
structure Place where
  value : Value
  put : Value → Bindings

namespace Reference

def position (name index : String) (size : Nat) : Except Error (Fin size) :=
  match integerOf? index with
  | none => .error (.lookup (.badIndex name index))
  | some i =>
    if h : 0 ≤ i ∧ i.toNat < size then .ok ⟨i.toNat, h.2⟩
    else .error (.lookup (.outOfBounds name size i))

def resolve (r : Reference) (bindings : Bindings) : Except Error Value :=
  match Entries.get? bindings r.name with
  | none => .error (.lookup (.unbound r.name))
  | some value =>
    match r.index with
    | none => .ok value
    | some index =>
      match value with
      | .array items =>
        match position r.name index items.length with
        | .ok i => .ok items[i]
        | .error e => .error e
      | .map entries =>
        match Entries.get? entries index with
        | some item => .ok item
        | none => .error (.lookup (.missingKey r.name index))
      | other => .error (.lookup (.notIndexable r.name index other.kind))

def place (r : Reference) (bindings : Bindings) : Except Error Place :=
  match Entries.get? bindings r.name with
  | none => .error (.lookup (.unbound r.name))
  | some value =>
    match r.index with
    | none => .ok ⟨value, bindings.bind r.name⟩
    | some index =>
      match value with
      | .array items =>
        match position r.name index items.length with
        | .ok i => .ok ⟨items[i], fun item => bindings.bind r.name (.array (items.set i item))⟩
        | .error e => .error e
      | .map entries =>
        match Entries.get? entries index with
        | some item =>
          .ok ⟨item, fun item => bindings.bind r.name (.map (Entries.insert index item entries))⟩
        | none => .error (.lookup (.missingKey r.name index))
      | other => .error (.lookup (.notIndexable r.name index other.kind))

/-- Stores a value: whether that could be done, and the bindings afterwards. A plain variable is bound
anew; an indexed place has to exist. -/
def assign (r : Reference) (value : Value) (bindings : Bindings) : Except Error Unit × Bindings :=
  match r.index with
  | none => (.ok (), bindings.bind r.name value)
  | some _ =>
    match r.place bindings with
    | .ok place => (.ok (), place.put value)
    | .error e => (.error e, bindings)

end Reference

namespace Operand

def resolve (operand : Operand) (bindings : Bindings) : Except Error Value :=
  match operand with
  | .constant value => .ok value
  | .reference r => r.resolve bindings

def place (operand : Operand) (bindings : Bindings) : Except Error Place :=
  match operand with
  | .constant _ => .error (.lookup .constantTarget)
  | .reference r => r.place bindings

def assign (operand : Operand) (value : Value) (bindings : Bindings) :
    Except Error Unit × Bindings :=
  match operand with
  | .constant _ => (.error (.lookup .constantTarget), bindings)
  | .reference r => r.assign value bindings

end Operand

namespace Template

def substitute (text : String) (bindings : Bindings) : Except Error String :=
  (fillPieces (fun r => (r.resolve bindings).map Value.splice) (pieces text)).map String.ofList

end Template
end ClaimRules
