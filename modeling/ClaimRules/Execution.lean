import ClaimRules.Reference.Address
import ClaimRules.Regex.Replacement

/-! Execution of single statements. A statement is first read against the context, which yields its
effect and changes nothing; then the effect is applied. -/

namespace ClaimRules

structure Context where
  bindings : Bindings
  success : Bool

namespace Context

def enterBlock (ctx : Context) (blockNumber : Nat) : Context :=
  ⟨ctx.bindings.enterBlock blockNumber, ctx.success⟩

def enterStatement (ctx : Context) (statementNumber : Nat) : Context :=
  ⟨ctx.bindings.enterStatement statementNumber, ctx.success⟩

end Context

/-- What a statement does once its operands are known. -/
inductive Effect where
  | store (target : Reference) (value : Value)
  | push (target : Reference) (item : Value)
  | test (result : Bool)
  | search (matched : Bool) (groups : List Value) (named : Entries Value)
  | flow (outcome : Outcome)

namespace Statement

def item (s : Statement) (verb : Verb) (index : Nat) : Except Error Value :=
  match s.items[index]? with
  | some value => .ok value
  | none => .error (.statement (.missingItem verb index s.items.length))

def target (s : Statement) (verb : Verb) (index : Nat) : Except Error Reference := do
  match Operand.ofValue (← s.item verb index) with
  | .reference r => return r
  | .constant _ => throw (.statement (.notReference verb index s))

def value (s : Statement) (verb : Verb) (index : Nat) (bindings : Bindings) :
    Except Error Value := do
  (Operand.ofValue (← s.item verb index)).resolve bindings

def kindError (s : Statement) (verb : Verb) (index : Nat) (allowed : List Kind) (found : Value) :
    Error :=
  .statement (.operandKind verb index allowed found.kind s)

def string (s : Statement) (verb : Verb) (index : Nat) (bindings : Bindings) :
    Except Error String := do
  match ← s.value verb index bindings with
  | .string text => return text
  | found => throw (s.kindError verb index [.string] found)

def array (s : Statement) (verb : Verb) (index : Nat) (bindings : Bindings) :
    Except Error (List Value) := do
  match ← s.value verb index bindings with
  | .array items => return items
  | found => throw (s.kindError verb index [.array] found)

def rawString (s : Statement) (verb : Verb) (index : Nat) : Except Error String := do
  match ← s.item verb index with
  | .string text => return text
  | found => throw (s.kindError verb index [.string] found)

def collectionKinds : List Kind := [.array, .map, .string]

def compilePattern (verb : Verb) (pattern : String) : Except Error Regex :=
  match Regex.compile pattern with
  | .ok re => .ok re
  | .error fault => .error (.statement (.badPattern verb pattern fault))

def sizeOf? : Value → Option Nat
  | .array items => some items.length
  | .map entries => some entries.length
  | .string text => some text.length
  | _ => none

def distinct (items : List Value) : List Value :=
  items.foldl (fun kept item => if item.isAmong kept then kept else kept ++ [item]) []

/-- The pieces between the matches. An empty piece before an empty match at the start is dropped, and
so are empty pieces at the end; a text without a match is one piece. -/
def splitText (re : Regex) (text : List Char) : List (List Char) :=
  match text, re.firstMatch? text with
  | [], _ => [[]]
  | _, none => [text]
  | _, some m =>
    let pieces := re.pieces text
    let pieces :=
      if m.span.start = 0 ∧ m.span.stop = 0 ∧ pieces.head? = some [] then pieces.drop 1 else pieces
    (pieces.reverse.dropWhile List.isEmpty).reverse

/-- All strings folded, unless some item is no string, which is the answer then. -/
def foldItems (fold : String → String) : List Value → Except Value (List Value)
  | [] => .ok []
  | .string text :: rest =>
    match foldItems fold rest with
    | .ok rest => .ok (.string (fold text) :: rest)
    | .error item => .error item
  | item :: _ => .error item

def foldKeys (fold : String → String) (entries : Entries Value) : Entries Value :=
  .ofPairs (entries.map fun entry => (fold entry.1, entry.2))

def occursIn (part : List Char) : List Char → Bool
  | [] => part.isEmpty
  | c :: rest => part.isPrefixOf (c :: rest) || occursIn part rest

/-- Whether the member is an item, a key or a part of the collection; a key and a part have to be
strings. -/
def contains? : Value → Value → Option Bool
  | .array items, member => some (member.isAmong items)
  | .map entries, .string key => some (Entries.hasKey entries key)
  | .string text, .string part => some (occursIn part.toList text.toList)
  | _, _ => none

def order? : Value → Value → Option (Option Ordering)
  | .string a, .string b => some (some (compare a b))
  | .integer a, .integer b => some (some (compare a.toInt b.toInt))
  | .real a, .real b => some (a.compare? b)
  | _, _ => none

inductive OrderTest where
  | less
  | greater
  | lessOrEqual
  | greaterOrEqual
  deriving DecidableEq, Repr

def OrderTest.ofOperator? : String → Option OrderTest
  | "<" => some .less
  | ">" => some .greater
  | "<=" => some .lessOrEqual
  | ">=" => some .greaterOrEqual
  | _ => none

def OrderTest.passes (test : OrderTest) : Option Ordering → Bool
  | none => false
  | some order =>
    match test with
    | .less => order.isLT
    | .greater => order.isGT
    | .lessOrEqual => order.isLE
    | .greaterOrEqual => order.isGE

def compareValues (left : Value) (operator : String) (right : Value) : Except Error Bool :=
  match operator with
  | "==" => .ok (left.same right)
  | "!=" => .ok (!left.same right)
  | _ =>
    match OrderTest.ofOperator? operator with
    | none => .error (.statement (.unknownOperator operator))
    | some test =>
      match order? left right with
      | none => .error (.statement (.unordered operator left.kind))
      | some order => .ok (test.passes order)

def groupValue (text : List Char) (span : Option Regex.Span) : Value :=
  match span with
  | some span => .string (.ofList (span.slice text))
  | none => .null

def searchEffect (re : Regex) (text : List Char) : Effect :=
  match re.firstMatch? text with
  | none => .search false [] []
  | some m =>
    .search true (m.groups.map (groupValue text))
      (.ofPairs ((re.namedGroups m).map fun g => (g.1, groupValue text g.2)))

def criteria (s : Statement) (verb : Verb) (index : Nat) (bindings : Bindings) :
    Except Error Criteria := do
  let name ← s.string verb index bindings
  match Criteria.ofName? name with
  | some c => return c
  | none => throw (.statement (.unknownCriteria verb (Unicode.lowerText name)))

def foldCase (s : Statement) (verb : Verb) (fold : String → String) (bindings : Bindings) :
    Except Error Effect := do
  let target ← s.target verb 1
  match ← s.value verb 2 bindings with
  | .string text => return .store target (.string (fold text))
  | .array items =>
    match foldItems fold items with
    | .ok folded => return .store target (.array folded)
    | .error item => throw (.statement (.itemNotString verb item items))
  | .map entries => return .store target (.map (foldKeys fold entries))
  | found => throw (s.kindError verb 2 collectionKinds found)

def membership (s : Statement) (verb : Verb) (negated : Bool) (bindings : Bindings) :
    Except Error Effect := do
  let member ← s.value verb 1 bindings
  let collection ← s.value verb 2 bindings
  if collectionKinds.contains collection.kind then
    match contains? collection member with
    | some found => return .test (found != negated)
    | none => throw (.statement (.memberKind verb collection.kind))
  else throw (s.kindError verb 2 collectionKinds collection)

def verbEffect (s : Statement) (verb : Verb) (ctx : Context) : Except Error Effect :=
  let bindings := ctx.bindings
  match verb with
  | .set => do
    let target ← s.target verb 1
    return .store target (← s.value verb 2 bindings)
  | .length => do
    let target ← s.target verb 1
    let value ← s.value verb 2 bindings
    match sizeOf? value with
    | some n => return .store target (Bindings.number n)
    | none => throw (s.kindError verb 2 collectionKinds value)
  | .interpolate => do
    let target ← s.target verb 1
    let template ← s.rawString verb 2
    return .store target (.string (← Template.substitute template bindings))
  | .append => do
    let target ← s.target verb 1
    let _ ← s.array verb 1 bindings
    return .push target (← s.value verb 2 bindings)
  | .unique => do
    let target ← s.target verb 1
    return .store target (.array (distinct (← s.array verb 2 bindings)))
  | .split => do
    let target ← s.target verb 1
    let text ← s.string verb 2 bindings
    let re ← compilePattern verb (← s.string verb 3 bindings)
    return .store target (.array ((splitText re text.toList).map fun p => .string (.ofList p)))
  | .join => do
    let target ← s.target verb 1
    let items ← s.array verb 2 bindings
    let conjunction ← s.string verb 3 bindings
    return .store target (.string (conjunction.intercalate (items.map Value.splice)))
  | .lower => s.foldCase verb Unicode.lowerText bindings
  | .upper => s.foldCase verb Unicode.upperText bindings
  | .member => s.membership verb false bindings
  | .notMember => s.membership verb true bindings
  | .compare => do
    let left ← s.value verb 1 bindings
    let operator ← s.string verb 2 bindings
    let right ← s.value verb 3 bindings
    if left.kind = right.kind then return .test (← compareValues left operator right)
    else throw (.statement (.kindsDiffer left.kind right.kind))
  | .regexp => do
    let text ← s.string verb 1 bindings
    let re ← compilePattern verb (← s.string verb 2 bindings)
    return searchEffect re text.toList
  | .regexpReplace => do
    let text ← s.string verb 2 bindings
    let pattern ← s.string verb 3 bindings
    let replacement ← s.string verb 4 bindings
    let re ← compilePattern verb pattern
    let target ← s.target verb 1
    return .store target (.string (.ofList (re.replaceAll text.toList replacement.toList)))
  | .exit => do
    let status ← s.string verb 1 bindings
    match Outcome.ofStatus? status with
    | none => throw (.statement (.unknownStatus (Unicode.lowerText status)))
    | some outcome =>
      let c ← s.criteria verb 2 bindings
      return .flow (if c.holds ctx.success then outcome else .statementContinue)
  | .skip => do
    let c ← s.criteria verb 1 bindings
    return .flow (if c.holds ctx.success then .blockContinue else .statementContinue)

def verb (s : Statement) : Except Error Verb :=
  match s.items with
  | [] => .error (.statement .noVerb)
  | .string name :: _ =>
    match Verb.ofName? name with
    | some verb => .ok verb
    | none => .error (.statement (.unknownVerb (Unicode.lowerText name)))
  | other :: _ => .error (.statement (.verbKind other.kind))

def effect (s : Statement) (ctx : Context) : Except Error Effect := do
  s.verbEffect (← s.verb) ctx

end Statement

namespace Effect

def apply (effect : Effect) (ctx : Context) : Except Error Outcome × Context :=
  match effect with
  | .store target value =>
    match target.assign value ctx.bindings with
    | (.ok (), bindings) => (.ok .statementContinue, ⟨bindings, true⟩)
    | (.error e, bindings) => (.error e, ⟨bindings, ctx.success⟩)
  | .push target item =>
    match target.place ctx.bindings with
    | .error e => (.error e, ctx)
    | .ok place =>
      match place.value with
      | .array items => (.ok .statementContinue, ⟨place.put (.array (items ++ [item])), true⟩)
      | other => (.error (.statement (.appendTarget other.kind)), ctx)
  | .test result => (.ok .statementContinue, ⟨ctx.bindings, result⟩)
  | .search matched groups named =>
    (.ok .statementContinue,
      ⟨(ctx.bindings.bind Bindings.regexpArrayName (.array groups)).bind Bindings.regexpMapName
        (.map named), matched⟩)
  | .flow outcome => (.ok outcome, ctx)

end Effect

def Statement.execute (s : Statement) (ctx : Context) : Except Error Outcome × Context :=
  match s.effect ctx with
  | .ok effect => effect.apply ctx
  | .error e => (.error e, ctx)

end ClaimRules
