/-! The arguments of the command line. -/

namespace ClaimRules.CommandLine

inductive Command where
  | map (rules : String) (mappings assertion : Option String) (pretty : Bool)
  | check (rules : String)
  | docs
  | doc (topic : String)
  deriving DecidableEq, Repr

inductive Refusal where
  | help
  | version
  | misuse
  deriving DecidableEq, Repr

structure Switch where
  letter : Char
  word : String
  takesValue : Bool
  mayBeEmpty : Bool
  deriving DecidableEq, Repr

/-- What has been read: the switches with their values, and the other arguments, last first. -/
structure Given where
  switches : List (Char × String)
  others : List String
  deriving DecidableEq, Repr

def Given.add (g : Given) (s : Switch) (value : String) : Except Refusal Given :=
  if (g.switches.lookup s.letter).isSome || (s.takesValue && !s.mayBeEmpty && value.isEmpty) then
    .error .misuse
  else .ok { g with switches := (s.letter, value) :: g.switches }

inductive Pending where
  | nothing
  | value (s : Switch)

def readLetters (switches : List Switch) : List Char → Given → Except Refusal (Given × Pending)
  | [], g => .ok (g, .nothing)
  | c :: rest, g =>
    if c = 'h' then .error .help
    else
      match switches.find? (·.letter == c) with
      | none => .error .misuse
      | some s =>
        if s.takesValue then
          match rest with
          | [] => .ok (g, .value s)
          | '=' :: value => (g.add s (.ofList value)).map fun g => (g, .nothing)
          | value => (g.add s (.ofList value)).map fun g => (g, .nothing)
        else
          match g.add s "" with
          | .ok g => readLetters switches rest g
          | .error refusal => .error refusal

def readWord (switches : List Switch) (text : List Char) (g : Given) :
    Except Refusal (Given × Pending) :=
  let word := String.ofList (text.takeWhile (· != '='))
  match switches.find? (·.word == word), text.dropWhile (· != '=') with
  | none, [] => if word = "help" then .error .help else .error .misuse
  | none, _ => .error .misuse
  | some s, [] =>
    if s.takesValue then .ok (g, .value s) else (g.add s "").map fun g => (g, .nothing)
  | some s, _ :: value =>
    if s.takesValue then (g.add s (.ofList value)).map fun g => (g, .nothing) else .error .misuse

/-- Reads arguments one by one, of which so many may be no switches. What starts with a hyphen is a
switch and never the value of another one, unless two hyphens stand alone before it or one hyphen
stands alone. -/
def readArguments (switches : List Switch) (places : Nat) :
    Pending → List String → Given → Except Refusal Given
  | .nothing, [], g => .ok g
  | .value _, [], _ => .error .misuse
  | .value s, argument :: rest, g =>
    match argument.toList with
    | '-' :: _ :: _ => .error .misuse
    | _ =>
      match g.add s argument with
      | .ok g => readArguments switches places .nothing rest g
      | .error refusal => .error refusal
  | .nothing, argument :: rest, g =>
    match argument.toList with
    | ['-', '-'] =>
      if g.others.length + rest.length ≤ places then .ok { g with others := rest.reverse ++ g.others }
      else .error .misuse
    | '-' :: c :: text =>
      match if c = '-' then readWord switches text g else readLetters switches (c :: text) g with
      | .ok (g, pending) => readArguments switches places pending rest g
      | .error refusal => .error refusal
    | _ =>
      if g.others.length < places then
        readArguments switches places .nothing rest { g with others := argument :: g.others }
      else .error .misuse

def rulesSwitch : Switch := ⟨'r', "rules", true, false⟩

def mapSwitches : List Switch :=
  [rulesSwitch, ⟨'m', "mappings", true, false⟩, ⟨'a', "assertion", true, true⟩,
    ⟨'p', "pretty", false, true⟩]

def Given.map (g : Given) : Except Refusal Command :=
  match g.switches.lookup 'r' with
  | some rules =>
    .ok (.map rules (g.switches.lookup 'm') (g.switches.lookup 'a')
      (g.switches.lookup 'p').isSome)
  | none => .error .misuse

def Given.check (g : Given) : Except Refusal Command :=
  match g.switches.lookup 'r' with
  | some rules => .ok (.check rules)
  | none => .error .misuse

def Given.doc (g : Given) : Except Refusal Command :=
  match g.others with
  | [topic] => .ok (.doc topic)
  | _ => .error .misuse

def commandNames : List String := ["map", "check", "docs", "doc", "help"]

def parse : List String → Except Refusal Command
  | [] => .error .misuse
  | first :: rest =>
    let read (switches : List Switch) (places : Nat) :=
      readArguments switches places .nothing rest ⟨[], []⟩
    match first with
    | "map" => do (← read mapSwitches 0).map
    | "check" => do (← read [rulesSwitch] 0).check
    | "docs" => (read [] 0).map fun _ => .docs
    | "doc" => do (← read [] 1).doc
    | "help" =>
      match rest with
      | [] => .error .help
      | [name] => .error (if commandNames.contains name then .help else .misuse)
      | _ => .error .misuse
    | "--help" => .error .help
    | "--version" => .error .version
    | _ =>
      match first.toList with
      | '-' :: 'h' :: _ => .error .help
      | '-' :: 'V' :: _ => .error .version
      | _ => .error .misuse

end ClaimRules.CommandLine
