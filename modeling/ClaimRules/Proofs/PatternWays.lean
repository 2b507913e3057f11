import ClaimRules.Regex.Match

/-! The ways in which a pattern matches, preferred ones first. -/

namespace ClaimRules.Regex

/-- How far a match has come: the place in the text, and the places stored on the way. -/
structure Progress where
  place : Nat
  slots : List (Option Nat)
  deriving DecidableEq, Repr

def Progress.thread (s : Progress) (pc : Nat) : Thread := ⟨pc, s.place, s.slots⟩

/-- Where a match can go on to, preferred ways first. -/
abbrev Ways := Progress → List Progress

theorem contains_single {c d : Char} :
    (Unicode.CodeSet.single d.toNat).contains c.toNat = true ↔ c = d := by
  rw [← Char.toNat_inj]
  grind [Unicode.CodeSet.single, Unicode.CodeSet.contains]

namespace Ways

def stay : Ways := fun s => [s]

def taking (text : Array Char) (set : Unicode.CodeSet) : Ways := fun s =>
  match text[s.place]? with
  | some c => if set.contains c.toNat then [⟨s.place + 1, s.slots⟩] else []
  | none => []

def checking (text : Array Char) (a : Anchor) : Ways := fun s =>
  if a.holds (charBefore text s.place) text[s.place]? then [s] else []

def storing (slot : Nat) : Ways := fun s => [⟨s.place, s.slots.set slot (some s.place)⟩]

def andThen (first second : Ways) : Ways := fun s => (first s).flatMap second

def either (first second : Ways) : Ways := fun s => first s ++ second s

def gate (greedy : Bool) (inside outside : Ways) : Ways :=
  if greedy then either inside outside else either outside inside

def times (body : Ways) : Nat → Ways
  | 0 => stay
  | n + 1 => andThen body (times body n)

def upTo (body : Ways) (greedy : Bool) : Nat → Ways
  | 0 => stay
  | n + 1 => gate greedy (andThen body (upTo body greedy n)) stay

/-- Any number of times. When every turn takes a character, there cannot be more of them than characters
that are left. -/
def loop (text : Array Char) (body : Ways) (greedy : Bool) : Ways :=
  fun s => upTo body greedy (text.size - s.place) s

end Ways

namespace Pattern

open Ways

mutual

def ways (text : Array Char) : Pattern → Ways
  | .empty => stay
  | .literal chars => chars.foldr (fun c rest => andThen (taking text (.single c.toNat)) rest) stay
  | .oneOf set => taking text set
  | .anchor a => checking text a
  | .repeated least most greedy body =>
    andThen (times (ways text body) least) (match most with
      | some most => upTo (ways text body) greedy (most - least)
      | none => loop text (ways text body) greedy)
  | .group index _ body =>
    andThen (storing (2 * index)) (andThen (ways text body) (storing (2 * index + 1)))
  | .sequence parts => waysOfAll text parts
  | .choice branches => waysOfAny text branches

def waysOfAll (text : Array Char) : List Pattern → Ways
  | [] => stay
  | part :: rest => andThen (ways text part) (waysOfAll text rest)

def waysOfAny (text : Array Char) : List Pattern → Ways
  | [] => fun _ => []
  | branch :: rest => either (ways text branch) (waysOfAny text rest)

end

def takes (body : Pattern) : Bool :=
  match leastLength body with
  | some (_ + 1) => true
  | _ => false

mutual

def advances : Pattern → Bool
  | .repeated _ most _ body => (most.isSome || takes body) && advances body
  | .group _ _ body => advances body
  | .sequence parts => allAdvance parts
  | .choice branches => allAdvance branches
  | _ => true

def allAdvance : List Pattern → Bool
  | [] => true
  | part :: rest => advances part && allAdvance rest

end

end Pattern

@[elab_as_elim]
theorem Pattern.induction {motive : Pattern → Prop} (empty : motive .empty)
    (literal : ∀ chars, motive (.literal chars)) (oneOf : ∀ set, motive (.oneOf set))
    (anchor : ∀ a, motive (.anchor a))
    (repeated : ∀ least most greedy body, motive body → motive (.repeated least most greedy body))
    (group : ∀ index name body, motive body → motive (.group index name body))
    (sequence : ∀ parts, (∀ p ∈ parts, motive p) → motive (.sequence parts))
    (choice : ∀ branches, (∀ p ∈ branches, motive p) → motive (.choice branches)) :
    ∀ p, motive p
  | .empty => empty
  | .literal chars => literal chars
  | .oneOf set => oneOf set
  | .anchor a => anchor a
  | .repeated least most greedy body => repeated least most greedy body
      (Pattern.induction empty literal oneOf anchor repeated group sequence choice body)
  | .group index name body => group index name body
      (Pattern.induction empty literal oneOf anchor repeated group sequence choice body)
  | .sequence parts => sequence parts fun p _ =>
      Pattern.induction empty literal oneOf anchor repeated group sequence choice p
  | .choice branches => choice branches fun p _ =>
      Pattern.induction empty literal oneOf anchor repeated group sequence choice p

variable {text : Array Char}

/-- The ways take so many characters at least, and none past the end. -/
def Ways.Take (text : Array Char) (n : Nat) (w : Ways) : Prop :=
  ∀ s, ∀ s' ∈ w s, s.place + n ≤ s'.place ∧ s'.place ≤ max s.place text.size

namespace Ways

variable {v w : Ways} {n m : Nat}

theorem take_stay : Take text 0 stay := by
  intro s s' hs
  cases List.mem_singleton.1 hs
  exact ⟨Nat.le_refl _, Nat.le_max_left ..⟩

theorem take_taking (set : Unicode.CodeSet) : Take text 1 (taking text set) := by
  intro s s' hs
  unfold taking at hs
  split at hs
  · next c hc =>
    have hlt : s.place < text.size := (Array.getElem?_eq_some_iff.1 hc).1
    split at hs
    · cases List.mem_singleton.1 hs
      exact ⟨Nat.le_refl _, Nat.le_trans hlt (Nat.le_max_right ..)⟩
    · cases hs
  · cases hs

theorem take_checking (a : Anchor) : Take text 0 (checking text a) := by
  intro s s' hs
  unfold checking at hs
  split at hs
  · exact take_stay s s' hs
  · cases hs

theorem take_storing (slot : Nat) : Take text 0 (storing slot) := by
  intro s s' hs
  cases List.mem_singleton.1 hs
  exact ⟨Nat.le_refl _, Nat.le_max_left ..⟩

theorem andThen_assoc (u v w : Ways) : andThen (andThen u v) w = andThen u (andThen v w) := by
  funext s
  exact List.flatMap_assoc

theorem stay_andThen (w : Ways) : andThen stay w = w := by
  funext s
  exact List.flatMap_singleton w s

theorem andThen_stay (w : Ways) : andThen w stay = w := by
  funext s
  exact List.flatMap_singleton' (w s)

theorem times_succ (w : Ways) (n : Nat) : times w (n + 1) = andThen (times w n) w := by
  induction n with
  | zero => exact (andThen_stay w).trans (stay_andThen w).symm
  | succ n ih =>
    change andThen w (times w (n + 1)) = andThen (andThen w (times w n)) w
    rw [ih, andThen_assoc]

theorem Take.andThen (hv : Take text n v) (hw : Take text m w) :
    Take text (n + m) (andThen v w) := by
  intro s s'' hs
  obtain ⟨s', hs', hs''⟩ := List.mem_flatMap.1 hs
  have h := hv s s' hs'
  have h' := hw s' s'' hs''
  omega

theorem Take.mono (h : Take text n w) (hle : m ≤ n) : Take text m w := by
  intro s s' hs
  have h' := h s s' hs
  omega

theorem Take.either (hv : Take text n v) (hw : Take text n w) : Take text n (either v w) := by
  intro s s' hs
  rcases List.mem_append.1 hs with hs | hs
  · exact hv s s' hs
  · exact hw s s' hs

theorem Take.gate (greedy : Bool) (hv : Take text n v) (hw : Take text n w) :
    Take text n (gate greedy v w) := by
  cases greedy
  · exact hw.either hv
  · exact hv.either hw

theorem Take.times (h : Take text n w) (k : Nat) : Take text (k * n) (times w k) := by
  induction k with
  | zero =>
    rw [Nat.zero_mul]
    exact take_stay
  | succ k ih =>
    rw [Nat.succ_mul, Nat.add_comm]
    exact h.andThen ih

theorem Take.upTo (h : Take text n w) (greedy : Bool) (k : Nat) :
    Take text 0 (upTo w greedy k) := by
  induction k with
  | zero => exact take_stay
  | succ k ih => exact ((h.andThen ih).mono (Nat.zero_le _)).gate greedy take_stay

theorem Take.loop (h : Take text n w) (greedy : Bool) : Take text 0 (loop text w greedy) :=
  fun s => h.upTo greedy _ s

end Ways

namespace Pattern

open Ways

theorem waysOfAll_append (text : Array Char) (front back : List Pattern) :
    waysOfAll text (front ++ back) = andThen (waysOfAll text front) (waysOfAll text back) := by
  induction front with
  | nil => exact (stay_andThen _).symm
  | cons part front ih => rw [List.cons_append, waysOfAll, ih, waysOfAll, andThen_assoc]

theorem take_waysOfAll {parts : List Pattern}
    (h : ∀ p ∈ parts, ∀ n, leastLength p = some n → (p.ways text).Take text n) {n : Nat}
    (hn : leastLengthOfAll parts = some n) : (waysOfAll text parts).Take text n := by
  induction parts generalizing n with
  | nil =>
    cases hn
    exact take_stay
  | cons part rest ih =>
    rw [leastLengthOfAll] at hn
    rcases hp : leastLength part with _ | k
    · simp [hp] at hn
    rcases hr : leastLengthOfAll rest with _ | m
    · simp [hp, hr] at hn
    have hsum : n = k + m := by simpa [hp, hr] using hn.symm
    have hrest := ih (fun p hp => h p (List.mem_cons_of_mem _ hp)) hr
    rw [hsum]
    exact (h part List.mem_cons_self k hp).andThen hrest

theorem take_waysOfAny {branches : List Pattern}
    (h : ∀ p ∈ branches, ∀ n, leastLength p = some n → (p.ways text).Take text n) {n : Nat}
    (hn : leastLengthOfAny branches = some n) : (waysOfAny text branches).Take text n := by
  induction branches generalizing n with
  | nil => cases hn
  | cons branch rest ih =>
    have hnone : Take text n (waysOfAny text []) := fun _ _ hs => nomatch hs
    cases rest with
    | nil => exact (h branch List.mem_cons_self n hn).either hnone
    | cons other rest =>
      rw [leastLengthOfAny] at hn
      · rcases hb : leastLength branch with _ | k
        · simp [hb] at hn
        rcases hr : leastLengthOfAny (other :: rest) with _ | m
        · simp [hb, hr] at hn
        have hmin : n = min k m := by simpa [hb, hr] using hn.symm
        have hbranch := h branch List.mem_cons_self k hb
        have hrest := ih (fun p hp => h p (List.mem_cons_of_mem _ hp)) hr
        rw [hmin]
        exact (hbranch.mono (Nat.min_le_left ..)).either (hrest.mono (Nat.min_le_right ..))
      · exact nofun

theorem take_literal (chars : List Char) :
    (ways text (.literal chars)).Take text chars.length := by
  rw [ways]
  induction chars with
  | nil => exact take_stay
  | cons c chars ih =>
    rw [List.length_cons, Nat.add_comm]
    exact (take_taking _).andThen ih

theorem take_ways (p : Pattern) : ∀ n, leastLength p = some n → (p.ways text).Take text n := by
  induction p using Pattern.induction with
  | empty =>
    rintro _ ⟨⟩
    exact take_stay
  | literal chars =>
    intro n hn
    rw [leastLength, Option.some.injEq] at hn
    exact hn ▸ take_literal chars
  | oneOf set =>
    intro n hn
    rw [leastLength] at hn
    split at hn
    · cases hn
    · cases hn
      exact take_taking set
  | anchor a =>
    rintro _ ⟨⟩
    exact take_checking a
  | repeated least most greedy body ih =>
    intro n hn
    rw [leastLength] at hn
    obtain ⟨m, hm, rfl⟩ := Option.map_eq_some_iff.1 hn
    have hbody := ih m hm
    cases most with
    | some most => exact (hbody.times least).andThen (hbody.upTo greedy _)
    | none => exact (hbody.times least).andThen (hbody.loop greedy)
  | group index name body ih =>
    intro n hn
    have hbody := ih n hn
    have hafter := hbody.andThen (take_storing (2 * index + 1))
    rw [ways]
    exact ((take_storing (2 * index)).andThen hafter).mono (by omega)
  | sequence parts ih =>
    intro n hn
    exact take_waysOfAll ih hn
  | choice branches ih =>
    intro n hn
    exact take_waysOfAny ih hn

end Pattern

end ClaimRules.Regex
