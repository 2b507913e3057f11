import ClaimRules.Proofs.GroupNames
import ClaimRules.Proofs.Literals
import ClaimRules.Proofs.PatternVerbs
import ClaimRules.Proofs.WrittenForms

/-! Replacements. A text that stands for the matches of a pattern is read from left to right, where each
reference to a group gives way to what the group took. But as an operand it is read as a reference to a
variable first. -/

namespace ClaimRules

namespace Regex

variable {re : Regex} {text name after rest out : List Char} {m : Match} {k : Nat}

/-- A text names a group by its number, after a sign or not, or by its name. -/
inductive NamesGroup (re : Regex) : List Char → Nat → Prop where
  | number {sign digits : List Char} (hsign : sign = [] ∨ sign = ['+']) (hne : digits ≠ [])
      (hdigits : ∀ c ∈ digits, c.isDigit = true)
      (hlt : Nat.ofDigitChars 10 digits 0 < re.groupNames.length)
      (hword : Nat.ofDigitChars 10 digits 0 < UInt64.size) :
      NamesGroup re (sign ++ digits) (Nat.ofDigitChars 10 digits 0)
  | name {k : Nat} {name : String} (h : re.groupNames[k]? = some (some name)) :
      NamesGroup re name.toList k

/-- What follows a dollar sign begins with a name, which is in braces or else made of all letters, digits
and underscores up to another character. -/
inductive Refers : List Char → List Char → List Char → Prop where
  | braced {name rest : List Char} (hname : '\x7d' ∉ name) :
      Refers ('\x7b' :: (name ++ '\x7d' :: rest)) name rest
  | bare {name rest : List Char} (hne : name ≠ []) (hname : ∀ c ∈ name, isGroupChar c = true)
      (hrest : ∀ c ∈ rest.head?, isGroupChar c = false) : Refers (name ++ rest) name rest

/-- What a replacement stands for where a match is. Groups give way to what they took, and names of
no groups to nothing; two dollar signs are one, and all other characters are kept. -/
inductive Expands (re : Regex) (text : List Char) (m : Match) : List Char → List Char → Prop where
  | nil : Expands re text m [] []
  | char {c : Char} {rest out : List Char} (hc : c ≠ '$') (h : Expands re text m rest out) :
      Expands re text m (c :: rest) (c :: out)
  | dollar {rest out : List Char} (h : Expands re text m rest out) :
      Expands re text m ('$' :: '$' :: rest) ('$' :: out)
  | group {after name rest out : List Char} {k : Nat} (hrefers : Refers after name rest)
      (hname : re.NamesGroup name k) (h : Expands re text m rest out) :
      Expands re text m ('$' :: after) (groupText text m k ++ out)
  | unknown {after name rest out : List Char} (hrefers : Refers after name rest)
      (hname : ∀ k, ¬ re.NamesGroup name k) (h : Expands re text m rest out) :
      Expands re text m ('$' :: after) out
  | lone {rest out : List Char} (hdollar : rest.head? ≠ some '$')
      (hrefers : ∀ name after, ¬ Refers rest name after) (h : Expands re text m rest out) :
      Expands re text m ('$' :: rest) ('$' :: out)

theorem isNameStart_of_lt {c : Char} (h : c.toNat < 58) : isNameStart c = false := by
  have hnone : ∀ n < 58, Unicode.alphabetic.contains n = false := by decide +kernel
  have hne : c ≠ '_' := by
    rintro rfl
    exact absurd h (by decide)
  rw [isNameStart, hnone _ h, Bool.or_false, beq_eq_false_iff_ne]
  exact hne

theorem isDigits_iff_forall {digits : List Char} :
    isDigits digits = true ↔ digits ≠ [] ∧ ∀ c ∈ digits, c.isDigit = true := by
  simp [isDigits]

theorem Insert.ofName_eq (name : List Char) :
    ∃ sign digits : List Char, (sign = [] ∧ name.head? ≠ some '+' ∨ sign = ['+']) ∧
      name = sign ++ digits ∧ Insert.ofName name =
        if isDigits digits && digitsValue digits < UInt64.size then .numbered (digitsValue digits)
        else .named (.ofList name) := by
  unfold Insert.ofName
  split
  · exact ⟨['+'], _, .inr rfl, rfl, rfl⟩
  · next hplus =>
    refine ⟨[], name, .inl ⟨rfl, fun h => ?_⟩, rfl, rfl⟩
    obtain ⟨rest, rfl⟩ := List.head?_eq_some_iff.1 h
    exact hplus rest rfl

theorem Insert.ofName_number {sign digits : List Char} (hsign : sign = [] ∨ sign = ['+'])
    (hne : digits ≠ []) (hdigits : ∀ c ∈ digits, c.isDigit = true)
    (hword : Nat.ofDigitChars 10 digits 0 < UInt64.size) :
    Insert.ofName (sign ++ digits) = .numbered (Nat.ofDigitChars 10 digits 0) := by
  have hplus : digits.head? ≠ some '+' := fun h =>
    nomatch hdigits '+' (List.mem_of_head? h)
  obtain ⟨sign', digits', hsign', heq, hname⟩ := Insert.ofName_eq (sign ++ digits)
  have hsame : digits' = digits := by
    rcases hsign with rfl | rfl <;> rcases hsign' with ⟨rfl, hhead⟩ | rfl
    · exact heq.symm
    · exact absurd (by rw [← List.nil_append digits, heq]; rfl) hplus
    · exact absurd rfl hhead
    · exact (List.cons.inj heq).2.symm
  subst hsame
  rw [hname, isDigits_iff_forall.2 ⟨hne, hdigits⟩, Json.digitsValue_eq, decide_eq_true hword]
  rfl

theorem Insert.ofName_groupName {name : String} (h : IsGroupName name) :
    Insert.ofName name.toList = .named name := by
  obtain ⟨first, others, hname, hfirst, -⟩ := h
  have hlarge : 58 ≤ first.toNat := by
    by_contra hlt
    rw [isNameStart_of_lt (by omega)] at hfirst
    cases hfirst
  -- neither a sign nor a digit comes first
  obtain ⟨sign, digits, hsign, heq, hnumber⟩ := Insert.ofName_eq name.toList
  obtain rfl : sign = [] := by
    rcases hsign with ⟨rfl, -⟩ | rfl
    · rfl
    · rw [hname] at heq
      obtain ⟨rfl, -⟩ := List.cons.inj heq
      exact absurd hlarge (by decide)
  obtain rfl : digits = name.toList := heq.symm
  have hdigits : isDigits name.toList = false := by
    rw [← Bool.not_eq_true, isDigits_iff_forall]
    rintro ⟨-, hall⟩
    have hdigit := Char.isDigit_iff_toNat.1 (hall first (hname ▸ List.mem_cons_self))
    change 48 ≤ first.toNat ∧ first.toNat ≤ 57 at hdigit
    omega
  rw [hnumber, hdigits, String.ofList_toList]
  rfl

structure Named (re : Regex) : Prop where
  valid : ∀ {k : Nat} {name : String}, re.groupNames[k]? = some (some name) → IsGroupName name
  unique : ∀ {j k : Nat} {name : String}, re.groupNames[j]? = some (some name) →
    re.groupNames[k]? = some (some name) → j = k

theorem named_of_compile {pattern : String} (h : compile pattern = .ok re) : re.Named := by
  obtain ⟨e, p, he, hp, rfl⟩ := exists_of_compile h
  have hkept := Expr.ordered_groups he false
  have hnames {k : Nat} {name : String} :
      p.groupNames[k]? = some (some name) ↔ (k, some name) ∈ e.groups false :=
    getElem?_groupNames hkept (Expr.mem_groups_pattern hp)
  refine ⟨fun hname => hkept.valid _ ?_, fun hj hk => ?_⟩
  · exact List.mem_filterMap.2 ⟨_, hnames.1 hname, rfl⟩
  · exact hkept.fst_eq_of_name (hnames.1 hj) (hnames.1 hk)

theorem length_groups_of_matchFrom? {pattern : String} (h : compile pattern = .ok re)
    {chars : Array Char} {place : Nat} (hm : re.matchFrom? chars place = some m) :
    m.groups.length = re.groupNames.length := by
  obtain ⟨e, p, he, hp, rfl⟩ := exists_of_compile h
  exact (Pattern.leftmost_of_matchFrom? (Expr.number_ne_zero he hp) hm).length_groups

namespace Named

variable (h : re.Named)

include h

theorem expand_name {name : String} (hname : re.groupNames[k]? = some (some name)) :
    Insert.expand re text m (.named name) = groupText text m k := by
  rcases hfound : re.groupNames.findIdx? (· == some name) with _ | k'
  · have hnone := List.findIdx?_eq_none_iff.1 hfound _ (List.mem_of_getElem? hname)
    simp at hnone
  · obtain ⟨hlt, hhas, -⟩ := List.findIdx?_eq_some_iff_getElem.1 hfound
    have hsame := h.unique (List.getElem?_eq_some_iff.2 ⟨hlt, beq_iff_eq.1 hhas⟩) hname
    rw [Insert.expand, hfound, hsame]

theorem expand_ofName (hname : re.NamesGroup name k) :
    Insert.expand re text m (Insert.ofName name) = groupText text m k := by
  cases hname with
  | number hsign hne hdigits _ hword =>
    rw [Insert.ofName_number hsign hne hdigits hword]
    rfl
  | name hname => rw [Insert.ofName_groupName (h.valid hname), h.expand_name hname]

omit h in
theorem expand_ofName_unknown (hgroups : m.groups.length = re.groupNames.length)
    (hname : ∀ k, ¬ re.NamesGroup name k) :
    Insert.expand re text m (Insert.ofName name) = [] := by
  obtain ⟨sign, digits, hsign, rfl, hinsert⟩ := Insert.ofName_eq name
  rw [hinsert]
  split
  · next hnumber =>
    obtain ⟨hdigits, hword⟩ := Bool.and_eq_true_iff.1 hnumber
    obtain ⟨hne, hall⟩ := isDigits_iff_forall.1 hdigits
    rw [Json.digitsValue_eq] at hword ⊢
    have hout : re.groupNames.length ≤ Nat.ofDigitChars 10 digits 0 := by
      by_contra hlt
      exact hname _ (.number (hsign.imp_left And.left) hne hall (by omega) (of_decide_eq_true hword))
    rw [Insert.expand, groupText, List.getElem?_eq_none (hgroups ▸ hout)]
    rfl
  · rcases hfound : re.groupNames.findIdx? (· == some (.ofList (sign ++ digits))) with _ | k
    · rw [Insert.expand, hfound]
    · obtain ⟨hlt, hhas, -⟩ := List.findIdx?_eq_some_iff_getElem.1 hfound
      have hnames := NamesGroup.name (List.getElem?_eq_some_iff.2 ⟨hlt, beq_iff_eq.1 hhas⟩)
      rw [String.toList_ofList] at hnames
      exact absurd hnames (hname k)

end Named

theorem Refers.length_le (h : Refers after name rest) : rest.length ≤ after.length := by
  cases h with
  | braced => simp only [List.length_cons, List.length_append]; omega
  | bare => simp

theorem readInsert_of_refers (h : Refers after name rest) :
    readInsert after = (.ofName name, rest) := by
  cases h with
  | braced hname =>
    have hall : ∀ c ∈ name, (c != '\x7d') = true := fun c hc => by
      rw [bne_iff_ne]
      rintro rfl
      exact hname hc
    simp [readInsert, List.dropWhile_append_of_pos hall, List.takeWhile_append_of_pos hall]
  | bare hne hname hrest =>
    obtain ⟨c, name, rfl⟩ := List.exists_cons_of_ne_nil hne
    have hc := hname c List.mem_cons_self
    have hdollar : c ≠ '$' := by
      rintro rfl
      cases hc
    have hbrace : c ≠ '\x7b' := by
      rintro rfl
      cases hc
    have htake := Reference.takeWhile_run hname hrest
    have hdrop := Reference.dropWhile_run hname hrest
    rw [List.cons_append] at htake hdrop ⊢
    unfold readInsert
    split
    · next heq => exact absurd (List.cons.inj heq).1 hdollar
    · next heq => exact absurd (List.cons.inj heq).1 hbrace
    · rw [htake, hdrop]

theorem readInsert_lone (hdollar : after.head? ≠ some '$')
    (hrefers : ∀ name rest, ¬ Refers after name rest) : readInsert after = (.text '$', after) := by
  unfold readInsert
  split
  · exact absurd rfl hdollar
  · next inner =>
    split
    · next d after hd =>
      -- a brace that is closed would be a reference
      have hclosed := Reference.head?_dropWhile (· != '\x7d') inner d (by rw [hd]; rfl)
      obtain rfl : d = '\x7d' := by simpa using hclosed
      have hopen : '\x7d' ∉ inner.takeWhile (· != '\x7d') := fun hmem => by
        simpa using List.mem_takeWhile_imp hmem
      have hcut : inner.takeWhile (· != '\x7d') ++ '\x7d' :: after = inner := by
        rw [← hd, List.takeWhile_append_dropWhile]
      have hbraced : Refers ('\x7b' :: (inner.takeWhile (· != '\x7d') ++ '\x7d' :: after))
          (inner.takeWhile (· != '\x7d')) after := .braced hopen
      rw [hcut] at hbraced
      exact absurd hbraced (hrefers _ _)
    · rfl
  · split
    · rfl
    · next hne =>
      have hbare := Refers.bare hne (fun c => List.mem_takeWhile_imp)
        (Reference.head?_dropWhile isGroupChar after)
      rw [List.takeWhile_append_dropWhile] at hbare
      exact absurd hbare (hrefers _ _)

theorem inserts_char {c : Char} (hc : c ≠ '$') : inserts (c :: rest) = .text c :: inserts rest := by
  rw [inserts, if_neg hc]

theorem inserts_dollar : inserts ('$' :: after) =
    (readInsert after).1 :: inserts (readInsert after).2 := by
  rw [inserts, if_pos rfl]

theorem Expands.expansion_eq (hre : re.Named) (hgroups : m.groups.length = re.groupNames.length)
    {replacement : List Char} (h : re.Expands text m replacement out) :
    re.expansion replacement text m = out := by
  induction h with
  | nil => simp [expansion, inserts]
  | char hc _ ih =>
    rw [expansion, inserts_char hc, List.flatMap_cons, ← expansion, ih]
    rfl
  | dollar _ ih =>
    rw [expansion, inserts_dollar, List.flatMap_cons]
    exact congrArg _ ih
  | group hrefers hname _ ih =>
    rw [expansion, inserts_dollar, readInsert_of_refers hrefers, List.flatMap_cons,
      hre.expand_ofName hname, ← expansion, ih]
  | unknown hrefers hname _ ih =>
    rw [expansion, inserts_dollar, readInsert_of_refers hrefers, List.flatMap_cons,
      Named.expand_ofName_unknown hgroups hname, ← expansion, ih, List.nil_append]
  | lone hdollar hrefers _ ih =>
    rw [expansion, inserts_dollar, readInsert_lone hdollar hrefers, List.flatMap_cons, ← expansion,
      ih]
    rfl

theorem exists_expands (re : Regex) (text : List Char) (m : Match) (replacement : List Char) :
    ∃ out, re.Expands text m replacement out := by
  induction hn : replacement.length using Nat.strongRecOn generalizing replacement with
  | ind n ih =>
    subst hn
    rcases replacement with _ | ⟨c, after⟩
    · exact ⟨[], .nil⟩
    by_cases hc : c = '$'
    · subst hc
      by_cases hrefers : ∃ name rest, Refers after name rest
      · obtain ⟨name, rest, hrefers⟩ := hrefers
        obtain ⟨out, hout⟩ := ih _ (Nat.lt_succ_of_le hrefers.length_le) rest rfl
        by_cases hname : ∃ k, re.NamesGroup name k
        · obtain ⟨k, hname⟩ := hname
          exact ⟨_, .group hrefers hname hout⟩
        · exact ⟨_, .unknown hrefers (not_exists.1 hname) hout⟩
      · by_cases hdollar : after.head? = some '$'
        · obtain ⟨rest, rfl⟩ := List.head?_eq_some_iff.1 hdollar
          obtain ⟨out, hout⟩ := ih _ (by simp only [List.length_cons]; omega) rest rfl
          exact ⟨_, .dollar hout⟩
        · obtain ⟨out, hout⟩ := ih _ (by simp) after rfl
          exact ⟨_, .lone hdollar (fun name rest h => hrefers ⟨name, rest, h⟩) hout⟩
    · obtain ⟨out, hout⟩ := ih _ (by simp) after rfl
      exact ⟨_, .char hc hout⟩

theorem expands_iff (hre : re.Named) (hgroups : m.groups.length = re.groupNames.length)
    {replacement : List Char} :
    re.Expands text m replacement out ↔ out = re.expansion replacement text m := by
  refine ⟨fun h => (h.expansion_eq hre hgroups).symm, ?_⟩
  rintro rfl
  obtain ⟨out, hout⟩ := exists_expands re text m replacement
  rw [hout.expansion_eq hre hgroups]
  exact hout

/-- Pieces of a text with fillings between them. -/
def weave : List (List Char) → List (List Char) → List Char
  | piece :: pieces, filling :: fillings => piece ++ filling ++ weave pieces fillings
  | pieces, _ => pieces.flatten

theorem replaceFrom_eq_weave (replace : Match → List Char) (text : List Char) (place : Nat)
    (ms : List Match) : replaceFrom replace text place ms =
      weave (piecesFrom text place (ms.map Match.span)) (ms.map replace) := by
  induction ms generalizing place with
  | nil => exact (List.append_nil _).symm
  | cons m rest ih => rw [replaceFrom, ih]; rfl

end Regex

namespace Statement

open Regex

variable {s : Statement} {ctx : Context} {r : Reference} {text pattern replacement written : String}
  {re : Regex}

def StoresExpansions (s : Statement) (ctx : Context) (r : Reference) (re : Regex)
    (text replacement : String) : Prop :=
  ∃ (ms : List Match) (pieces : List (List Char)) (expand : Match → List Char),
    Successive re text.toList.toArray none ms ∧
      Cuts 0 text.toList (ms.map Match.span) pieces ∧
      (∀ m ∈ ms, ∀ out, re.Expands text.toList m replacement.toList out ↔ out = expand m) ∧
      s.execute ctx = (.ok .statementContinue,
        ⟨(r.assign (.string (.ofList (weave pieces (ms.map expand)))) ctx.bindings).2, true⟩)

structure Rewrites (s : Statement) (bindings : Bindings) (r : Reference)
    (text pattern written : String) : Prop where
  verb : s.verb = .ok .regexpReplace
  target : s.operand? 1 = some (.reference r)
  assignable : r.Assignable bindings
  yieldsText : s.Yields bindings 2 (.string text)
  yieldsPattern : s.Yields bindings 3 (.string pattern)
  writes : s.items[4]? = some (.string written)

theorem Replaces.storesExpansions (h : s.Replaces ctx.bindings r text pattern replacement)
    (hre : compile pattern = .ok re) : s.StoresExpansions ctx r re text replacement := by
  have hs := (bounded_of_compile hre).successive_matchesIn text.toList
  refine ⟨re.matchesIn text.toList, re.pieces text.toList, re.expansion replacement.toList text.toList,
    hs, (bounded_of_compile hre).cuts_matchesIn text.toList, fun m hm out => ?_, ?_⟩
  · obtain ⟨place, hplace⟩ := exists_matchFrom?_of_successive hs hm
    exact expands_iff (named_of_compile hre) (length_groups_of_matchFrom? hre hplace)
  · rw [h.execute_eq hre, replaceAll, replaceFrom_eq_weave]
    rfl

theorem Rewrites.replaces (h : s.Rewrites ctx.bindings r text pattern written)
    (hyields : (Operand.ofValue (.string written)).resolve ctx.bindings = .ok (.string replacement)) :
    s.Replaces ctx.bindings r text pattern replacement :=
  ⟨h.verb, h.target, h.assignable, h.yieldsText, h.yieldsPattern, _,
    by rw [operand?, h.writes, Option.map_some], hyields⟩

theorem string_eq_error {verb : Verb} {index : Nat} {bindings : Bindings} {e : Error}
    (h : s.value verb index bindings = .error e) : s.string verb index bindings = .error e := by
  rw [string, h]
  rfl

theorem string_eq_kindError {verb : Verb} {index : Nat} {bindings : Bindings} {value : Value}
    (h : s.value verb index bindings = .ok value) (hkind : value.kind ≠ .string) :
    s.string verb index bindings = .error (s.kindError verb index [.string] value) := by
  rw [string, h]
  cases value <;> first | rfl | exact absurd rfl hkind

theorem Rewrites.execute_eq_error (h : s.Rewrites ctx.bindings r text pattern written) {e : Error}
    (he : s.string .regexpReplace 4 ctx.bindings = .error e) : s.execute ctx = (.error e, ctx) := by
  have heffect : s.effect ctx = .error e := by
    simp only [effect, h.verb, verbEffect, string_eq_ok_iff.2 h.yieldsText,
      string_eq_ok_iff.2 h.yieldsPattern, he, bind, Except.bind]
  rw [execute, heffect]

/-- A replacement that is no reference to a variable is expanded for each match, group by group. One that is
a reference is first resolved, also where it names a group: its value is expanded instead, and without
a value nothing is replaced. -/
theorem replace_expands_groups (h : s.Rewrites ctx.bindings r text pattern written)
    (hre : compile pattern = .ok re) :
    (Operand.reference? written = none → s.StoresExpansions ctx r re text written) ∧
      ∀ source, Operand.reference? written = some source →
        (∀ replacement, source.resolve ctx.bindings = .ok (.string replacement) →
          s.StoresExpansions ctx r re text replacement) ∧
        (∀ value, source.resolve ctx.bindings = .ok value → value.kind ≠ .string →
          s.FailsWith ctx .invalidType) ∧
        ∀ e, source.resolve ctx.bindings = .error e → s.execute ctx = (.error e, ctx) := by
  refine ⟨fun hnone => ?_, fun source hsource => ?_⟩
  · have hconstant : Operand.ofValue (.string written) = .constant (.string written) := by
      rw [Operand.ofValue, hnone]
    exact (h.replaces (by rw [hconstant]; rfl)).storesExpansions hre
  · have hreference : Operand.ofValue (.string written) = .reference source := by
      rw [Operand.ofValue, hsource]
    have hvalue : s.value .regexpReplace 4 ctx.bindings = source.resolve ctx.bindings := by
      rw [Statement.value, item_eq_ok_iff.2 h.writes]
      exact congrArg (Operand.resolve · ctx.bindings) hreference
    refine ⟨fun replacement hsome => ?_, fun value hsome hkind => ?_, fun e herror => ?_⟩
    · exact (h.replaces (by rw [hreference]; exact hsome)).storesExpansions hre
    · exact ⟨_, h.execute_eq_error (string_eq_kindError (hvalue.trans hsome) hkind), rfl⟩
    · exact h.execute_eq_error (string_eq_error (hvalue.trans herror))

theorem replace_expands_groups_mixed :
    let replace (written : String) : Statement :=
      ⟨[.string "regexp_replace", .string "$out", .string "$text", .string "(?<user>a+)(x)?",
        .string written]⟩
    let bindings : Bindings :=
      [("text", .string "aax, a"), ("user", .string "<$1>"), ("n", .integer 3)]
    let ctx : Context := ⟨bindings, false⟩
    let stored (text : String) : Context := ⟨bindings ++ [("out", .string text)], true⟩
    ∃ re, compile "(?<user>a+)(x)?" = .ok re ∧
      (replace "$2:$\x7buser\x7d$$").StoresExpansions ctx ⟨"out", none⟩ re "aax, a"
        "$2:$\x7buser\x7d$$" ∧
      (replace "$2:$\x7buser\x7d$$").execute ctx = (.ok .statementContinue, stored "x:aa$, :a$") ∧
      (replace "$\x7buser\x7d").StoresExpansions ctx ⟨"out", none⟩ re "aax, a" "<$1>" ∧
      (replace "$\x7buser\x7d").execute ctx = (.ok .statementContinue, stored "<aa>, <a>") ∧
      (replace "$n").FailsWith ctx .invalidType ∧
      (replace "$x").execute ctx = (.error (.lookup (.unbound "x")), ctx) := by
  intro replace bindings ctx stored
  let e : Expr := .sequence [
    .group (.capture 1 (some "user")) (.repeated 1 none true (.literal ⟨'a', false⟩)),
    .repeated 0 (some 1) true (.group (.capture 2 none) (.literal ⟨'x', false⟩))]
  let p : Pattern := .sequence [
    .group 1 (some "user") (.repeated 1 none true (.literal ['a'])),
    .repeated 0 (some 1) true (.group 2 none (.literal ['x']))]
  let re : Regex := ⟨p.groupNames, p.program.toArray⟩
  have he : Expr.parse "(?<user>a+)(x)?" = .ok e := rfl
  have hp : e.pattern = .ok p := rfl
  have hre : compile "(?<user>a+)(x)?" = .ok re := compile_of_parse he hp
  let ms : List Match := [⟨⟨0, 3⟩, [some ⟨0, 3⟩, some ⟨0, 2⟩, some ⟨2, 3⟩]⟩,
    ⟨⟨5, 6⟩, [some ⟨5, 6⟩, some ⟨5, 6⟩, none]⟩]
  have hms : re.matchesIn "aax, a".toList = ms := by decide +kernel
  have hrewrites (written : String) :
      (replace written).Rewrites ctx.bindings ⟨"out", none⟩ "aax, a" "(?<user>a+)(x)?" written :=
    ⟨rfl, rfl, .inl rfl, ⟨.reference ⟨"text", none⟩, rfl, rfl⟩,
      ⟨.constant (.string _), rfl, rfl⟩, rfl⟩
  have hall (written : String) := replace_expands_groups (hrewrites written) hre
  have hexecute {written replacement replaced : String} (parts : List Insert)
      (hyields : (Operand.ofValue (.string written)).resolve bindings = .ok (.string replacement))
      (hparts : inserts replacement.toList = parts)
      (hreplaced : replaceFrom (fun m => parts.flatMap (Insert.expand re "aax, a".toList m))
        "aax, a".toList 0 ms = replaced.toList) :
      (replace written).execute ctx = (.ok .statementContinue, stored replaced) := by
    have hsame : re.replaceAll "aax, a".toList replacement.toList = replaced.toList := by
      rw [replaceAll, hms, ← hreplaced, ← hparts]
      rfl
    rw [((hrewrites written).replaces hyields).execute_eq hre, hsame, String.ofList_toList]
    rfl
  refine ⟨re, hre, (hall "$2:$\x7buser\x7d$$").1 rfl, ?_,
    ((hall "$\x7buser\x7d").2 ⟨"user", none⟩ rfl).1 "<$1>" rfl, ?_, ?_, ?_⟩
  · exact hexecute [.numbered 2, .text ':', .named "user", .text '$'] rfl (by decide +kernel) rfl
  · exact hexecute [.text '<', .numbered 1, .text '>'] rfl (by decide +kernel) rfl
  · exact ((hall "$n").2 ⟨"n", none⟩ rfl).2.1 (.integer 3) rfl (by decide)
  · exact ((hall "$x").2 ⟨"x", none⟩ rfl).2.2 _ rfl

/-- A reference to a group and nothing else names a variable. There is none of this name, so nothing is
replaced. -/
theorem replace_expands_no_variable :
    let s : Statement := ⟨[.string "regexp_replace", .string "$out", .string "alice",
      .string "(?<user>.+)", .string "$\x7buser\x7d"]⟩
    let ctx : Context := ⟨[], true⟩
    ∃ re m, s.Rewrites ctx.bindings ⟨"out", none⟩ "alice" "(?<user>.+)" "$\x7buser\x7d" ∧
      compile "(?<user>.+)" = .ok re ∧ re.matchesIn "alice".toList = [m] ∧
      re.NamesGroup "user".toList 1 ∧
      re.Expands "alice".toList m "$\x7buser\x7d".toList "alice".toList ∧
      s.execute ctx = (.error (.lookup (.unbound "user")), ctx) ∧
      ¬ s.StoresExpansions ctx ⟨"out", none⟩ re "alice" "$\x7buser\x7d" := by
  intro s ctx
  let e : Expr := .group (.capture 1 (some "user")) (.repeated 1 none true .dot)
  let p : Pattern :=
    .group 1 (some "user") (.repeated 1 none true (.oneOf (Unicode.CodeSet.compl [⟨0xa, 0xa⟩])))
  let re : Regex := ⟨p.groupNames, p.program.toArray⟩
  let m : Match := ⟨⟨0, 5⟩, [some ⟨0, 5⟩, some ⟨0, 5⟩]⟩
  have he : Expr.parse "(?<user>.+)" = .ok e := rfl
  have hp : e.pattern = .ok p := rfl
  have hname : re.NamesGroup "user".toList 1 := .name rfl
  have hexpands : re.Expands "alice".toList m "$\x7buser\x7d".toList "alice".toList :=
    .group (.braced (by decide)) hname .nil
  have hexecute : s.execute ctx = (.error (.lookup (.unbound "user")), ctx) := rfl
  refine ⟨re, m, ?_, compile_of_parse he hp, ?_, hname, hexpands, hexecute, ?_⟩
  · exact ⟨rfl, rfl, .inl rfl, ⟨.constant (.string _), rfl, rfl⟩,
      ⟨.constant (.string _), rfl, rfl⟩, rfl⟩
  · decide +kernel
  · rintro ⟨_, _, _, -, -, -, hstores⟩
    cases hexecute.symm.trans hstores

end Statement
end ClaimRules
