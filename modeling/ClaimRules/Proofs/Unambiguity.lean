import ClaimRules.Proofs.Literals
import ClaimRules.Proofs.Parts

/-! Natural forms of values without reals are unambiguous. A quote after a backslash may be part of a text
or close it, and what follows it does not tell: only the whole form does. If it is read in two ways, the
quotes from there on alternately open a text in the one reading and close one in the other, so that one of
the readings ends inside a text. -/

namespace ClaimRules

structure Separates {α β : Type} (separator : List β) (one : α → List β) (print : List α → List β) :
    Prop where
  nil : print [] = []
  single : ∀ item, print [item] = one item
  more : ∀ item next items,
    print (item :: next :: items) = one item ++ (separator ++ print (next :: items))

inductive Lexeme where
  | text (chars : List Char)
  | mark (c : Char)

namespace Lexeme

def escape (c : Char) : List Char := if c = '"' then ['\\', '"'] else [c]

def spell : Lexeme → List Char
  | .text chars => '"' :: chars.flatMap escape ++ ['"']
  | .mark c => [c]

def spellAll (lexemes : List Lexeme) : List Char := lexemes.flatMap spell

/-- What is left of a text after its opening quote, and what follows it. -/
def spellInside (chars : List Char) (lexemes : List Lexeme) : List Char :=
  chars.flatMap escape ++ '"' :: spellAll lexemes

def Plain (lexemes : List Lexeme) : Prop := ∀ c, mark c ∈ lexemes → c ≠ '"' ∧ c ≠ '\\'

variable {lexemes others : List Lexeme} {chars more : List Char} {c : Char}

theorem spellAll_mark : spellAll (mark c :: lexemes) = c :: spellAll lexemes := rfl

theorem spellAll_text : spellAll (text chars :: lexemes) = '"' :: spellInside chars lexemes := by
  simp [spellAll, spellInside, spell]

theorem spellAll_append : spellAll (lexemes ++ others) = spellAll lexemes ++ spellAll others :=
  List.flatMap_append

theorem spellAll_marks : spellAll (chars.map mark) = chars := by
  induction chars with
  | nil => rfl
  | cons c chars ih => rw [List.map_cons, spellAll_mark, ih]

theorem spellInside_nil : spellInside [] lexemes = '"' :: spellAll lexemes := rfl

theorem spellInside_quote :
    spellInside ('"' :: chars) lexemes = '\\' :: '"' :: spellInside chars lexemes := rfl

theorem spellInside_cons (h : c ≠ '"') :
    spellInside (c :: chars) lexemes = c :: spellInside chars lexemes := by
  simp [spellInside, escape, h]

theorem plain_nil : Plain [] := fun _ h => nomatch h

theorem Plain.head (h : Plain (mark c :: lexemes)) : c ≠ '"' ∧ c ≠ '\\' :=
  h c List.mem_cons_self

theorem Plain.tail {first : Lexeme} (h : Plain (first :: lexemes)) : Plain lexemes :=
  fun c hc => h c (List.mem_cons_of_mem _ hc)

theorem Plain.cons (hc : c ≠ '"' ∧ c ≠ '\\') (h : Plain lexemes) : Plain (mark c :: lexemes) := by
  intro d hd
  rcases List.mem_cons.1 hd with hd | hd
  · rw [mark.inj hd]
    exact hc
  · exact h d hd

theorem Plain.text (h : Plain lexemes) : Plain (text chars :: lexemes) := by
  intro c hc
  rcases List.mem_cons.1 hc with hc | hc
  · cases hc
  · exact h c hc

theorem Plain.append (h : Plain lexemes) (ho : Plain others) : Plain (lexemes ++ others) :=
  fun c hc => (List.mem_append.1 hc).elim (h c) (ho c)

theorem spellAll_ne_spellInside (hl : Plain lexemes) (ho : Plain others) :
    spellAll lexemes ≠ spellInside chars others := by
  intro h
  induction hn : (spellAll lexemes).length using Nat.strongRecOn
    generalizing lexemes others chars with
  | ind n ih =>
    rcases chars with _ | ⟨d, chars⟩
    · -- the quote closes the one text, so that it opens one in the other reading
      rw [spellInside_nil] at h
      rcases lexemes with _ | ⟨⟨text⟩ | ⟨c⟩, lexemes⟩
      · cases h
      · rw [spellAll_text, List.cons.injEq] at h
        refine ih (spellAll others).length ?_ ho hl.tail h.2.symm rfl
        rw [← hn, spellAll_text, h.2, List.length_cons]
        exact Nat.lt_succ_self _
      · rw [spellAll_mark, List.cons.injEq] at h
        exact hl.head.1 h.1
    by_cases hd : d = '"'
    · -- outside of texts there is no backslash
      rw [hd, spellInside_quote] at h
      rcases lexemes with _ | ⟨⟨text⟩ | ⟨c⟩, lexemes⟩
      · cases h
      · rw [spellAll_text, List.cons.injEq] at h
        cases h.1
      · rw [spellAll_mark, List.cons.injEq] at h
        exact hl.head.2 h.1
    · rw [spellInside_cons hd] at h
      rcases lexemes with _ | ⟨⟨text⟩ | ⟨c⟩, lexemes⟩
      · cases h
      · rw [spellAll_text, List.cons.injEq] at h
        exact hd h.1.symm
      · rw [spellAll_mark, List.cons.injEq] at h
        refine ih (spellAll lexemes).length ?_ hl.tail ho h.2 rfl
        rw [← hn, spellAll_mark, List.length_cons]
        exact Nat.lt_succ_self _

theorem quote_ne_spellInside_cons {rest : List Char} :
    '"' :: rest ≠ spellInside (c :: chars) lexemes := by
  intro h
  by_cases hc : c = '"'
  · rw [hc, spellInside_quote] at h
    cases h
  · rw [spellInside_cons hc, List.cons.injEq] at h
    exact hc h.1.symm

theorem spellInside_inj (hl : Plain lexemes) (ho : Plain others)
    (h : spellInside chars lexemes = spellInside more others) :
    chars = more ∧ spellAll lexemes = spellAll others := by
  -- a quote after a backslash may be the only quarrel: in the one reading it closes the text
  have hquarrel {left right : List Char} {ls os : List Lexeme} (hl : Plain ls) (ho : Plain os) :
      spellInside left ls ≠ '"' :: spellInside right os := by
    intro h
    cases left with
    | nil => exact spellAll_ne_spellInside hl ho (List.cons.inj h).2
    | cons c left => exact quote_ne_spellInside_cons h.symm
  induction chars generalizing more with
  | nil =>
    cases more with
    | nil => exact ⟨rfl, (List.cons.inj h).2⟩
    | cons d more => exact absurd h quote_ne_spellInside_cons
  | cons c chars ih =>
    cases more with
    | nil => exact absurd h.symm quote_ne_spellInside_cons
    | cons d more =>
      by_cases hc : c = '"' <;> by_cases hd : d = '"'
      · subst hc hd
        obtain ⟨hchars, hrest⟩ := ih (List.cons.inj (List.cons.inj h).2).2
        exact ⟨congrArg _ hchars, hrest⟩
      · subst hc
        rw [spellInside_quote, spellInside_cons hd] at h
        exact absurd (List.cons.inj h).2.symm (hquarrel ho hl)
      · subst hd
        rw [spellInside_quote, spellInside_cons hc] at h
        exact absurd (List.cons.inj h).2 (hquarrel hl ho)
      · rw [spellInside_cons hc, spellInside_cons hd] at h
        obtain ⟨hhead, htail⟩ := List.cons.inj h
        obtain ⟨hchars, hrest⟩ := ih htail
        exact ⟨congrArg₂ List.cons hhead hchars, hrest⟩

theorem spellAll_inj (hl : Plain lexemes) (ho : Plain others)
    (h : spellAll lexemes = spellAll others) : lexemes = others := by
  have hquote {c : Char} {ls : List Lexeme} (hl : Plain (mark c :: ls)) {rest : List Char} :
      spellAll (mark c :: ls) ≠ '"' :: rest := fun h => hl.head.1 (List.cons.inj h).1
  induction lexemes generalizing others with
  | nil =>
    rcases others with _ | ⟨⟨text⟩ | ⟨c⟩, others⟩
    · rfl
    all_goals cases h
  | cons lexeme lexemes ih =>
    rcases lexeme with ⟨text⟩ | ⟨c⟩ <;> rcases others with _ | ⟨⟨other⟩ | ⟨d⟩, others⟩
    · cases h
    · rw [spellAll_text, spellAll_text] at h
      obtain ⟨rfl, hrest⟩ := spellInside_inj hl.tail ho.tail (List.cons.inj h).2
      rw [ih hl.tail ho.tail hrest]
    · rw [spellAll_text] at h
      exact absurd h.symm (hquote ho)
    · cases h
    · rw [spellAll_text] at h
      exact absurd h (hquote hl)
    · obtain ⟨rfl, hrest⟩ := List.cons.inj h
      rw [ih hl.tail ho.tail hrest]

def Ends (lexemes : List Lexeme) : Prop := Json.EndsNumber (spellAll lexemes)

theorem ends_mark (h : c ∈ [',', ']', '\x7d']) (rest : List Lexeme) : Ends (mark c :: rest) := by
  simp only [List.mem_cons, List.not_mem_nil, or_false] at h
  rcases h with rfl | rfl | rfl <;> exact Json.endsNumber_cons (by decide)

section Lists

variable {α : Type} {chunk : α → List Lexeme} {close : Char} {items others : List α}
  {rest rests : List Lexeme}

/-- What follows an item: the others, each after a comma and a blank, and the bracket that closes the
list. -/
def following (chunk : α → List Lexeme) (close : Char) (items : List α) (rest : List Lexeme) :
    List Lexeme :=
  items.flatMap (fun item => mark ',' :: mark ' ' :: chunk item) ++ mark close :: rest

def listed (chunk : α → List Lexeme) (close : Char) (items : List α) (rest : List Lexeme) :
    List Lexeme :=
  match items with
  | [] => mark close :: rest
  | item :: items => chunk item ++ following chunk close items rest

/-- Of what is written for the items and for the others, nothing can be read as two of them. -/
def Distinguishes (chunk : α → List Lexeme) (items others : List α) : Prop :=
  ∀ item ∈ items, ∀ other ∈ others, ∀ rest rests, Ends rest → Ends rests →
    chunk item ++ rest = chunk other ++ rests → item = other ∧ rest = rests

def Opens (chunk : α → List Lexeme) (close : Char) (items : List α) : Prop :=
  ∀ item ∈ items, ∀ rest rests, chunk item ++ rest ≠ mark close :: rests

theorem ends_following (hclose : close ∈ [']', '\x7d']) :
    Ends (following chunk close items rest) := by
  rcases items with _ | ⟨item, items⟩
  · exact ends_mark (List.mem_cons_of_mem _ hclose) _
  · exact ends_mark List.mem_cons_self _

theorem Distinguishes.tail {item other : α}
    (h : Distinguishes chunk (item :: items) (other :: others)) :
    Distinguishes chunk items others :=
  fun item hi other ho => h item (List.mem_cons_of_mem _ hi) other (List.mem_cons_of_mem _ ho)

theorem following_inj (hclose : close ∈ [']', '\x7d']) (hread : Distinguishes chunk items others)
    (h : following chunk close items rest = following chunk close others rests) :
    items = others ∧ rest = rests := by
  have hcomma : ',' ≠ close := by
    rintro rfl
    revert hclose
    decide
  induction items generalizing others with
  | nil =>
    rcases others with _ | ⟨other, others⟩
    · exact ⟨rfl, (List.cons.inj h).2⟩
    · exact absurd (mark.inj (List.cons.inj h).1).symm hcomma
  | cons item items ih =>
    rcases others with _ | ⟨other, others⟩
    · exact absurd (mark.inj (List.cons.inj h).1) hcomma
    · have hchunks : chunk item ++ following chunk close items rest =
          chunk other ++ following chunk close others rests := by
        simpa [following] using h
      obtain ⟨rfl, hfollowing⟩ := hread item List.mem_cons_self other List.mem_cons_self _ _
        (ends_following hclose) (ends_following hclose) hchunks
      obtain ⟨rfl, hrest⟩ := ih hread.tail hfollowing
      exact ⟨rfl, hrest⟩

theorem listed_inj (hclose : close ∈ [']', '\x7d']) (hitems : Opens chunk close items)
    (hothers : Opens chunk close others) (hread : Distinguishes chunk items others)
    (h : listed chunk close items rest = listed chunk close others rests) :
    items = others ∧ rest = rests := by
  rcases items with _ | ⟨item, items⟩ <;> rcases others with _ | ⟨other, others⟩
  · exact ⟨rfl, (List.cons.inj h).2⟩
  · exact absurd h.symm (hothers other List.mem_cons_self _ _)
  · exact absurd h (hitems item List.mem_cons_self _ _)
  · obtain ⟨rfl, hfollowing⟩ := hread item List.mem_cons_self other List.mem_cons_self _ _
      (ends_following hclose) (ends_following hclose) h
    obtain ⟨rfl, hrest⟩ := following_inj hclose hread.tail hfollowing
    exact ⟨rfl, hrest⟩

theorem append_close {print : List α → List Lexeme} (h : Separates [mark ',', mark ' '] chunk print) :
    print items ++ mark close :: rest = listed chunk close items rest := by
  rcases items with _ | ⟨item, items⟩
  · rw [h.nil]
    rfl
  · induction items generalizing item with
    | nil =>
      rw [h.single]
      rfl
    | cons next items ih =>
      rw [h.more, List.append_assoc, List.append_assoc, ih next]
      simp [listed, following]

theorem mem_separated {print : List α → List Lexeme} {separator : List Lexeme}
    (h : Separates separator chunk print) {lexeme : Lexeme} (hm : lexeme ∈ print items) :
    lexeme ∈ separator ∨ ∃ item ∈ items, lexeme ∈ chunk item := by
  induction items with
  | nil =>
    rw [h.nil] at hm
    cases hm
  | cons item items ih =>
    rcases items with _ | ⟨next, items⟩
    · rw [h.single] at hm
      exact .inr ⟨item, List.mem_cons_self, hm⟩
    · rw [h.more, List.mem_append, List.mem_append] at hm
      rcases hm with hm | hm | hm
      · exact .inr ⟨item, List.mem_cons_self, hm⟩
      · exact .inl hm
      · refine (ih hm).imp_right ?_
        rintro ⟨item, hi, hm⟩
        exact ⟨item, List.mem_cons_of_mem _ hi, hm⟩

theorem Plain.separated {print : List α → List Lexeme}
    (h : Separates [mark ',', mark ' '] chunk print) (hp : ∀ item ∈ items, Plain (chunk item)) :
    Plain (print items) := by
  intro c hc
  rcases mem_separated h hc with hc | ⟨item, hi, hc⟩
  · simp only [List.mem_cons, mark.injEq, List.not_mem_nil, or_false] at hc
    rcases hc with rfl | rfl <;> decide
  · exact hp item hi c hc

theorem spellAll_separated {print : List α → List Lexeme} {one : α → List Char}
    {text : List α → List Char} (h : Separates [mark ',', mark ' '] chunk print)
    (ht : Separates [',', ' '] one text) (hone : ∀ item ∈ items, spellAll (chunk item) = one item) :
    spellAll (print items) = text items := by
  induction items with
  | nil => rw [h.nil, ht.nil]; rfl
  | cons item items ih =>
    have hitem := hone item List.mem_cons_self
    rcases items with _ | ⟨next, items⟩
    · rw [h.single, ht.single, hitem]
    · rw [h.more, ht.more, spellAll_append, spellAll_append, hitem,
        ih fun item hi => hone item (List.mem_cons_of_mem _ hi)]
      rfl

end Lists

end Lexeme

namespace Value

open Lexeme (mark spellAll)

mutual

def lexemes : Value → List Lexeme
  | .string text => [.text text.toList]
  | .array items => mark '[' :: lexemesOfItems items ++ [mark ']']
  | .map entries => mark '\x7b' :: lexemesOfEntries entries ++ [mark '\x7d']
  | value => (spell value).map mark

def lexemesOfItems : List Value → List Lexeme
  | [] => []
  | [item] => lexemes item
  | item :: rest => lexemes item ++ mark ',' :: mark ' ' :: lexemesOfItems rest

def lexemesOfEntries : List (String × Value) → List Lexeme
  | [] => []
  | [(key, value)] => .text key.toList :: mark ':' :: mark ' ' :: lexemes value
  | (key, value) :: rest =>
    .text key.toList :: mark ':' :: mark ' ' :: lexemes value ++
      mark ',' :: mark ' ' :: lexemesOfEntries rest

end

variable {value other : Value} {items : List Value} {entries : Entries Value}

def lexemesOfEntry (entry : String × Value) : List Lexeme :=
  .text entry.1.toList :: mark ':' :: mark ' ' :: lexemes entry.2

def spellEntry (entry : String × Value) : List Char :=
  spellText entry.1 ++ ':' :: ' ' :: spell entry.2

theorem separates_lexemesOfItems : Separates [mark ',', mark ' '] lexemes lexemesOfItems :=
  ⟨rfl, fun _ => rfl, fun _ _ _ => rfl⟩

theorem separates_lexemesOfEntries :
    Separates [mark ',', mark ' '] lexemesOfEntry lexemesOfEntries :=
  ⟨rfl, fun _ => rfl, fun _ _ _ => rfl⟩

theorem separates_spellItems : Separates [',', ' '] spell spellItems :=
  ⟨rfl, fun _ => rfl, fun _ _ _ => rfl⟩

theorem separates_spellEntries : Separates [',', ' '] spellEntry spellEntries :=
  ⟨rfl, fun _ => rfl, fun _ _ _ => by simp [spellEntries, spellEntry]⟩

theorem spellAll_lexemesOfEntry {entry : String × Value}
    (h : spellAll entry.2.lexemes = entry.2.spell) :
    spellAll (lexemesOfEntry entry) = spellEntry entry := by
  rw [lexemesOfEntry, Lexeme.spellAll_text, Lexeme.spellInside, Lexeme.spellAll_mark,
    Lexeme.spellAll_mark, h]
  simp only [spellEntry, spellText, List.cons_append, List.append_assoc, List.nil_append]
  rfl

theorem spellAll_lexemes (value : Value) : spellAll value.lexemes = value.spell := by
  induction value using Value.induction with
  | string text =>
    rw [lexemes, Lexeme.spellAll_text]
    rfl
  | array items ih =>
    have hitems := Lexeme.spellAll_separated separates_lexemesOfItems separates_spellItems ih
    rw [lexemes, spell, Lexeme.spellAll_append, Lexeme.spellAll_mark, hitems]
    rfl
  | map entries ih =>
    have hentries := Lexeme.spellAll_separated separates_lexemesOfEntries separates_spellEntries
      fun entry he => spellAll_lexemesOfEntry (ih entry he)
    rw [lexemes, spell, Lexeme.spellAll_append, Lexeme.spellAll_mark, hentries]
    rfl
  | _ => exact Lexeme.spellAll_marks

theorem plain_spellInt {n : Int} {c : Char} (h : c ∈ spellInt n) : c ≠ '"' ∧ c ≠ '\\' := by
  have hdigits (n : Nat) (h : c ∈ Nat.toDigits 10 n) : c ≠ '"' ∧ c ≠ '\\' := by
    have hdigit : c.isDigit = true := Json.isDigit_of_mem_toDigits h
    constructor <;> rintro rfl <;> cases hdigit
  unfold spellInt at h
  split at h
  · rcases List.mem_cons.1 h with rfl | h
    · decide
    · exact hdigits _ h
  · exact hdigits _ h

theorem plain_lexemes (hv : value.RealFree) : Lexeme.Plain value.lexemes := by
  induction value using Value.induction with
  | string text => exact Lexeme.plain_nil.text
  | array items ih =>
    have hitems : Lexeme.Plain (lexemesOfItems items) :=
      .separated separates_lexemesOfItems fun item hi => ih item hi (regular_array.1 hv item hi)
    exact (hitems.cons (by decide)).append (Lexeme.plain_nil.cons (by decide))
  | map entries ih =>
    have hentries : Lexeme.Plain (lexemesOfEntries entries) := by
      refine .separated separates_lexemesOfEntries fun entry he => ?_
      have hvalue := ih entry he ((regular_map.1 hv).2 entry he)
      exact ((hvalue.cons (by decide)).cons (by decide)).text
    exact (hentries.cons (by decide)).append (Lexeme.plain_nil.cons (by decide))
  | integer n =>
    intro c hc
    obtain ⟨d, hd, ⟨⟩⟩ := List.mem_map.1 hc
    exact plain_spellInt hd
  | real x => exact (regular_real.1 hv).elim
  | boolean b => cases b <;> simp [Lexeme.Plain, lexemes, spell]
  | null => simp [Lexeme.Plain, lexemes, spell]

def kindOf? : Lexeme → Option Kind
  | .text _ => some .string
  | .mark c =>
    if c = '[' then some .array
    else if c = '\x7b' then some .map
    else if c = 't' ∨ c = 'f' then some .boolean
    else if c = 'n' then some .null
    else if c = '-' ∨ c.isDigit then some .integer
    else none

theorem kindOf?_numeral {c : Char} (h : c = '-' ∨ c.isDigit = true) :
    kindOf? (mark c) = some .integer := by
  have hne (d : Char) (hd : d ≠ '-' ∧ d.isDigit = false) : c ≠ d := by
    rintro rfl
    rcases h with h | h
    · exact hd.1 h
    · cases hd.2.symm.trans h
  simp [kindOf?, hne '[' (by decide), hne '\x7b' (by decide), hne 't' (by decide),
    hne 'f' (by decide), hne 'n' (by decide), h]

theorem exists_lead (hv : value.RealFree) :
    ∃ lead more, value.lexemes = lead :: more ∧ kindOf? lead = some value.kind := by
  cases value with
  | integer n =>
    obtain ⟨lead, rest, hspell, hlead⟩ := Json.exists_lead_writeInt n.toInt
    have hspell : spell (.integer n) = lead :: rest := hspell
    rw [lexemes, hspell]
    · exact ⟨_, _, rfl, kindOf?_numeral hlead⟩
    all_goals exact nofun
  | real x => exact (regular_real.1 hv).elim
  | boolean b => cases b <;> exact ⟨_, _, rfl, rfl⟩
  | _ => exact ⟨_, _, rfl, rfl⟩

theorem opens_lexemes {close : Char} (hclose : close ∈ [']', '\x7d'])
    (hitems : ∀ item ∈ items, item.RealFree) : Lexeme.Opens lexemes close items := by
  intro item hi rest rests h
  obtain ⟨lead, more, hlead, hkind⟩ := exists_lead (hitems item hi)
  rw [hlead] at h
  cases h
  rw [List.mem_cons, List.mem_singleton] at hclose
  rcases hclose with rfl | rfl <;> cases hkind

theorem opens_lexemesOfEntry {close : Char} : Lexeme.Opens lexemesOfEntry close entries := by
  intro entry _ rest rests h
  cases h

theorem kind_eq_of_lexemes {rest rests : List Lexeme} (hv : value.RealFree) (ho : other.RealFree)
    (h : value.lexemes ++ rest = other.lexemes ++ rests) : value.kind = other.kind := by
  obtain ⟨lead, more, hlead, hl⟩ := exists_lead hv
  obtain ⟨first, others, hfirst, hf⟩ := exists_lead ho
  rw [hlead, hfirst] at h
  cases (List.cons.inj h).1
  exact Option.some.inj (hl.symm.trans hf)

theorem lexemes_inj {rest rests : List Lexeme} (hv : value.RealFree) (ho : other.RealFree)
    (hrest : Lexeme.Ends rest) (hrests : Lexeme.Ends rests)
    (h : value.lexemes ++ rest = other.lexemes ++ rests) : value = other ∧ rest = rests := by
  have hkind := kind_eq_of_lexemes hv ho h
  induction value using Value.induction generalizing other rest rests with
  | string text =>
    cases other <;> cases hkind
    obtain ⟨htext, hrest⟩ := List.cons.inj h
    rw [Lexeme.text.injEq, String.toList_inj] at htext
    exact ⟨congrArg _ htext, hrest⟩
  | array items ih =>
    cases other <;> cases hkind
    next others =>
      have hitems := regular_array.1 hv
      have hothers := regular_array.1 ho
      have hlists : Lexeme.listed lexemes ']' items rest = Lexeme.listed lexemes ']' others rests := by
        simpa [lexemes, ← Lexeme.append_close separates_lexemesOfItems] using h
      have hread : Lexeme.Distinguishes lexemes items others := by
        intro item hi other hm _ _ hr hs h
        have hkind := kind_eq_of_lexemes (hitems item hi) (hothers other hm) h
        exact ih item hi (hitems item hi) (hothers other hm) hr hs h hkind
      obtain ⟨rfl, hrest⟩ := Lexeme.listed_inj (by decide) (opens_lexemes (by decide) hitems)
        (opens_lexemes (by decide) hothers) hread hlists
      exact ⟨rfl, hrest⟩
  | map entries ih =>
    cases other <;> cases hkind
    next others =>
      obtain ⟨-, hentries⟩ := regular_map.1 hv
      obtain ⟨-, hothers⟩ := regular_map.1 ho
      have hlists : Lexeme.listed lexemesOfEntry '\x7d' entries rest =
          Lexeme.listed lexemesOfEntry '\x7d' others rests := by
        simpa [lexemes, ← Lexeme.append_close separates_lexemesOfEntries] using h
      have hread : Lexeme.Distinguishes lexemesOfEntry entries others := by
        intro entry he other hm _ _ hr hs h
        obtain ⟨hkey, h⟩ := List.cons.inj h
        rw [Lexeme.text.injEq, String.toList_inj] at hkey
        have h := (List.cons.inj (List.cons.inj h).2).2
        have hkind := kind_eq_of_lexemes (hentries entry he) (hothers other hm) h
        obtain ⟨hvalue, hrest⟩ :=
          ih entry he (hentries entry he) (hothers other hm) hr hs h hkind
        exact ⟨Prod.ext hkey hvalue, hrest⟩
      obtain ⟨rfl, hrest⟩ := Lexeme.listed_inj (by decide) opens_lexemesOfEntry
        opens_lexemesOfEntry hread hlists
      exact ⟨rfl, hrest⟩
  | integer n =>
    cases other <;> cases hkind
    next m =>
      have hspelled : Json.writeInt n.toInt ++ spellAll rest = Json.writeInt m.toInt ++ spellAll rests := by
        have h := congrArg spellAll h
        rwa [Lexeme.spellAll_append, Lexeme.spellAll_append, spellAll_lexemes, spellAll_lexemes] at h
      have hread := Json.readNumber_writeInt n hrest
      rw [hspelled, Json.readNumber_writeInt m hrests, Except.ok.injEq, Prod.mk.injEq,
        Json.integer.injEq] at hread
      cases hread.1
      exact ⟨rfl, List.append_cancel_left h⟩
  | real x => exact (regular_real.1 hv).elim
  | boolean b =>
    cases other <;> cases hkind
    next c =>
      cases b <;> cases c
      · exact ⟨rfl, List.append_cancel_left h⟩
      · cases h
      · cases h
      · exact ⟨rfl, List.append_cancel_left h⟩
  | null =>
    cases other <;> cases hkind
    exact ⟨rfl, List.append_cancel_left h⟩

/-- Values without reals that have the same natural form are the same, whatever quotes and backslashes
their texts and keys contain. -/
theorem natural_eq_iff (hv : value.RealFree) (ho : other.RealFree) :
    value.natural = other.natural ↔ value = other := by
  refine ⟨fun h => ?_, fun h => h ▸ rfl⟩
  have hspell : value.spell = other.spell := String.ofList_injective h
  rw [← spellAll_lexemes, ← spellAll_lexemes] at hspell
  have hlexemes := Lexeme.spellAll_inj (plain_lexemes hv) (plain_lexemes ho) hspell
  have hnil : Lexeme.Ends [] := Json.endsNumber_nil
  exact (lexemes_inj hv ho hnil hnil (by rw [hlexemes])).1

theorem natural_eq_iff_backslash :
    let two : Value := .array [.string "\\", .string ", "]
    let one : Value := .array [.string "\", "]
    two.RealFree ∧ one.RealFree ∧ two.natural = "[\"\\\", \", \"]" ∧ one.natural = "[\"\\\", \"]" ∧
      ¬two.natural = one.natural := by
  intro two one
  have htwo : two.RealFree := by
    refine regular_array.2 fun item hi => ?_
    rcases List.mem_pair.1 hi with rfl | rfl <;> exact regular_string _
  have hone : one.RealFree := by
    refine regular_array.2 fun item hi => ?_
    rw [List.mem_singleton.1 hi]
    exact regular_string _
  refine ⟨htwo, hone, by decide, by decide, ?_⟩
  rw [natural_eq_iff htwo hone]
  exact fun h => absurd (Value.array.inj h) (by simp)

end Value
end ClaimRules
