import ClaimRules.Proofs.WrittenForms
import ClaimRules.Reference.Address
import Mathlib.Data.List.Basic

/-! Scanning a template for references. The pieces of a text are cut where its references stand, so
the occurrences are told by the text alone, without the scan. -/

namespace ClaimRules
namespace Template

variable {r : Reference} {opened closed escaped : Bool} {text after rest : List Char} {c : Char}

theorem foldl_utf8Size (n : Nat) (chars : List Char) :
    chars.foldl (fun n c => n + c.utf8Size) n = n + utf8Size chars := by
  unfold utf8Size
  induction chars generalizing n with
  | nil => rfl
  | cons c chars ih =>
    simp only [List.foldl_cons]
    rw [ih, ih (0 + _)]
    omega

theorem utf8Size_append (front back : List Char) :
    utf8Size (front ++ back) = utf8Size front + utf8Size back := by
  rw [utf8Size, List.foldl_append, foldl_utf8Size, foldl_utf8Size, Nat.zero_add]

theorem utf8Size_cons (c : Char) (chars : List Char) :
    utf8Size (c :: chars) = c.utf8Size + utf8Size chars := by
  rw [utf8Size, List.foldl_cons, foldl_utf8Size, Nat.zero_add]

theorem utf8Size_eq_zero {chars : List Char} (h : utf8Size chars = 0) : chars = [] := by
  cases chars with
  | nil => rfl
  | cons c chars =>
    rw [utf8Size_cons] at h
    have := c.utf8Size_pos
    omega

def chars (pieces : List Piece) : List Char := pieces.flatMap Piece.chars

theorem piecesFrom_of_stands (escaped : Bool) (h : r.Stands opened closed text after) :
    piecesFrom escaped text =
      (if escaped then .plain (r.written opened closed)
        else .reference r (r.written opened closed)) :: piecesFrom false after := by
  have htext : text = '$' :: (r.body opened closed ++ after) := h.text_eq
  subst htext
  have hread : Reference.read? (r.body opened closed ++ after) = some (r, after) :=
    Reference.read?_of_stands h
  have htake : (r.body opened closed ++ after).take
      ((r.body opened closed ++ after).length - after.length) = r.body opened closed := by
    rw [List.length_append, Nat.add_sub_cancel, List.take_left]
  rw [piecesFrom, if_pos rfl]
  split
  · next found left heq =>
    cases hread.symm.trans heq
    rw [htake, Reference.written]
  · next heq => cases hread.symm.trans heq

theorem piecesFrom_of_not_opens (escaped : Bool)
    (h : ¬ Reference.Opens (c :: rest)) :
    piecesFrom escaped (c :: rest) = .plain [c] :: piecesFrom (c == '\\') rest := by
  rw [piecesFrom]
  split
  · next hc =>
    subst hc
    split
    · next r after hread =>
      obtain ⟨opened, closed, hstands⟩ := Reference.stands_of_read? hread
      exact absurd (Reference.opens_iff.2 ⟨r, opened, closed, after, hstands⟩) h
    · rfl
  · rfl

theorem scan_induction {motive : List Char → Prop} (nil : motive [])
    (reference : ∀ (r : Reference) opened closed text after, r.Stands opened closed text after →
      motive after → motive text)
    (char : ∀ c rest, ¬ Reference.Opens (c :: rest) → motive rest → motive (c :: rest))
    (text : List Char) : motive text := by
  induction hn : text.length using Nat.strongRecOn generalizing text with
  | ind n ih =>
    subst hn
    by_cases h : Reference.Opens text
    · obtain ⟨r, opened, closed, after, hstands⟩ := Reference.opens_iff.1 h
      have hlt : after.length < text.length := by
        rw [hstands.text_eq, List.length_append, Reference.written, List.length_cons]
        omega
      exact reference r opened closed text after hstands (ih _ hlt after rfl)
    · cases text with
      | nil => exact nil
      | cons c rest =>
        exact char c rest h (ih _ (by simp) rest rfl)

theorem chars_piecesFrom (escaped : Bool) (text : List Char) :
    chars (piecesFrom escaped text) = text := by
  induction text using scan_induction generalizing escaped with
  | nil => rw [piecesFrom]; rfl
  | reference r opened closed text after h ih =>
    rw [piecesFrom_of_stands escaped h, chars, List.flatMap_cons]
    have hfirst : Piece.chars (if escaped then .plain (r.written opened closed)
        else .reference r (r.written opened closed)) = r.written opened closed := by
      cases escaped <;> rfl
    rw [hfirst, h.text_eq]
    exact congrArg _ (ih false)
  | char c rest h ih =>
    rw [piecesFrom_of_not_opens escaped h, chars, List.flatMap_cons]
    exact congrArg (c :: ·) (ih _)

def endsEscaped (escaped : Bool) (before : List Char) : Bool :=
  match before.getLast? with
  | none => escaped
  | some c => c == '\\'

theorem endsEscaped_cons (c : Char) (before : List Char) :
    endsEscaped escaped (c :: before) = endsEscaped (c == '\\') before := by
  unfold endsEscaped
  rw [List.getLast?_cons]
  cases before.getLast? <;> rfl

theorem endsEscaped_append (front back : List Char) :
    endsEscaped escaped (front ++ back) = endsEscaped (endsEscaped escaped front) back := by
  induction front generalizing escaped with
  | nil => rfl
  | cons c front ih => rw [List.cons_append, endsEscaped_cons, endsEscaped_cons, ih]

theorem endsEscaped_written (h : r.Writable) :
    endsEscaped escaped (r.written opened closed) = false := by
  rw [Reference.written, endsEscaped_cons]
  have hbody : ∀ c ∈ r.body opened closed, c ≠ '\\' := by
    rintro c hc rfl
    cases Reference.isFormChar_of_mem_body h '\\' hc
  generalize r.body opened closed = body at hbody
  induction body with
  | nil => rfl
  | cons c body ih =>
    have hc : (c == '\\') = false := beq_eq_false_iff_ne.2 (hbody c List.mem_cons_self)
    rw [endsEscaped_cons, hc]
    exact ih fun c hc => hbody c (List.mem_cons_of_mem _ hc)

theorem endsEscaped_append_written (h : r.Writable) (before : List Char) :
    endsEscaped escaped (r.written opened closed ++ before) = endsEscaped false before := by
  rw [endsEscaped_append, endsEscaped_written h]

/-- The reference of an occurrence stands in the text, not after a backslash, and takes its bytes,
which are counted from a start. -/
def Occurs (escaped : Bool) (start : Nat) (text : List Char) (o : Occurrence) : Prop :=
  ∃ before opened closed rest after, text = before ++ rest ∧ endsEscaped escaped before = false ∧
    o.reference.Stands opened closed rest after ∧ o.start = start + utf8Size before ∧
    o.stop = o.start + utf8Size (o.reference.written opened closed)

variable {o : Occurrence} {start : Nat}

theorem not_occurs_nil : ¬ Occurs escaped start [] o := by
  rintro ⟨before, opened, closed, rest, after, htext, -, hstands, -⟩
  obtain ⟨-, rfl⟩ := List.append_eq_nil_iff.1 htext.symm
  cases hstands.text_eq

theorem occurs_char (h : ¬ Reference.Opens (c :: rest)) :
    Occurs escaped start (c :: rest) o ↔ Occurs (c == '\\') (start + c.utf8Size) rest o := by
  constructor
  · rintro ⟨before, opened, closed, form, after, htext, hescaped, hstands, hstart, hstop⟩
    cases before with
    | nil =>
      rw [List.nil_append] at htext
      rw [← htext] at hstands
      exact absurd (Reference.opens_iff.2 ⟨_, opened, closed, after, hstands⟩) h
    | cons d before =>
      obtain ⟨rfl, rfl⟩ := List.cons.inj htext
      rw [endsEscaped_cons] at hescaped
      rw [utf8Size_cons, ← Nat.add_assoc] at hstart
      exact ⟨before, opened, closed, form, after, rfl, hescaped, hstands, hstart, hstop⟩
  · rintro ⟨before, opened, closed, form, after, rfl, hescaped, hstands, hstart, hstop⟩
    refine ⟨c :: before, opened, closed, form, after, rfl, ?_, hstands, ?_, hstop⟩
    · rwa [endsEscaped_cons]
    · rwa [utf8Size_cons, ← Nat.add_assoc]

theorem exists_of_append_eq (h : r.Stands opened closed text after) {before form left : List Char}
    {other : Reference} {opened' closed' : Bool} (htext : text = before ++ form)
    (hform : other.Stands opened' closed' form left) :
    before = [] ∨ ∃ more, before = r.written opened closed ++ more ∧ after = more ++ form := by
  cases before with
  | nil => exact .inl rfl
  | cons d before =>
    right
    rw [h.text_eq, Reference.written] at htext
    obtain ⟨rfl, hbody⟩ := List.cons.inj htext
    obtain ⟨more, rfl, rfl⟩ | ⟨more, hmore, rfl⟩ := List.append_eq_append_iff.1 hbody
    · exact ⟨more, rfl, rfl⟩
    · cases more with
      | nil =>
        rw [List.append_nil] at hmore
        exact ⟨[], by rw [← hmore, List.append_nil, Reference.written], rfl⟩
      | cons e more =>
        -- a dollar sign would be part of what follows one
        obtain ⟨rfl, -⟩ := List.cons.inj hform.text_eq
        have hmem : '$' ∈ r.body opened closed := by simp [hmore]
        cases Reference.isFormChar_of_mem_body h.writable '$' hmem

theorem occurs_reference (h : r.Stands opened closed text after) :
    Occurs escaped start text o ↔
      (escaped = false ∧ o = ⟨start, start + utf8Size (r.written opened closed), r⟩) ∨
        Occurs false (start + utf8Size (r.written opened closed)) after o := by
  constructor
  · rintro ⟨before, opened', closed', form, left, htext, hescaped, hstands, hstart, hstop⟩
    rcases exists_of_append_eq h htext hstands with rfl | ⟨more, rfl, rfl⟩
    · left
      rw [List.nil_append] at htext
      subst htext
      obtain ⟨hr, hw⟩ := h.unique hstands
      have hstart' : o.start = start := hstart
      rw [hstart', ← hw] at hstop
      obtain ⟨first, last, found⟩ := o
      dsimp only at hstart' hstop hr
      subst hstart' hstop hr
      exact ⟨hescaped, rfl⟩
    · right
      rw [endsEscaped_append_written h.writable] at hescaped
      rw [utf8Size_append, ← Nat.add_assoc] at hstart
      exact ⟨more, opened', closed', form, left, rfl, hescaped, hstands, hstart, hstop⟩
  · rintro (⟨rfl, rfl⟩ | ⟨before, opened', closed', form, left, rfl, hescaped, hstands, hstart, hstop⟩)
    · exact ⟨[], opened, closed, text, after, rfl, rfl, h, rfl, rfl⟩
    · refine ⟨r.written opened closed ++ before, opened', closed', form, left, ?_, ?_, hstands, ?_,
        hstop⟩
      · rw [h.text_eq, List.append_assoc]
      · rwa [endsEscaped_append_written h.writable]
      · rwa [utf8Size_append, ← Nat.add_assoc]

theorem mem_occurrencesFrom_iff (escaped : Bool) (start : Nat) (text : List Char) :
    o ∈ occurrencesFrom start (piecesFrom escaped text) ↔ Occurs escaped start text o := by
  induction text using scan_induction generalizing escaped start with
  | nil =>
    rw [piecesFrom]
    exact iff_of_false List.not_mem_nil not_occurs_nil
  | reference r opened closed text after h ih =>
    rw [piecesFrom_of_stands escaped h, occurs_reference h, ← ih]
    cases escaped with
    | true => simp [occurrencesFrom]
    | false => simp [occurrencesFrom]
  | char c rest h ih =>
    rw [piecesFrom_of_not_opens escaped h, occurs_char h, ← ih]
    have hsize : utf8Size [c] = c.utf8Size := by rw [utf8Size_cons]; rfl
    simp only [occurrencesFrom, hsize]

theorem endsEscaped_false_iff {before : List Char} :
    endsEscaped false before = false ↔ before.getLast? ≠ some '\\' := by
  unfold endsEscaped
  rcases before.getLast? with _ | c <;> simp

theorem mem_occurrences_iff {text : String} :
    o ∈ occurrences text ↔ ∃ before opened closed rest after,
      text.toList = before ++ rest ∧ before.getLast? ≠ some '\\' ∧
        o.reference.Stands opened closed rest after ∧ o.start = utf8Size before ∧
        o.stop = o.start + utf8Size (o.reference.written opened closed) := by
  rw [occurrences, pieces, mem_occurrencesFrom_iff]
  simp only [Occurs, endsEscaped_false_iff, Nat.zero_add]

theorem exists_occurrence_iff {text : String} (place : Nat) :
    (∃ o ∈ occurrences text, o.start = place) ↔
      ∃ before rest, text.toList = before ++ rest ∧ utf8Size before = place ∧
        before.getLast? ≠ some '\\' ∧ Reference.Opens rest := by
  constructor
  · rintro ⟨o, ho, rfl⟩
    obtain ⟨before, opened, closed, rest, after, htext, hescaped, hstands, hstart, -⟩ :=
      mem_occurrences_iff.1 ho
    have hopens : Reference.Opens rest := Reference.opens_iff.2 ⟨_, opened, closed, after, hstands⟩
    exact ⟨before, rest, htext, hstart.symm, hescaped, hopens⟩
  · rintro ⟨before, rest, htext, rfl, hescaped, hopens⟩
    obtain ⟨r, opened, closed, after, hstands⟩ := Reference.opens_iff.1 hopens
    refine ⟨⟨utf8Size before, utf8Size before + utf8Size (r.written opened closed), r⟩, ?_, rfl⟩
    exact mem_occurrences_iff.2
      ⟨before, opened, closed, rest, after, htext, hescaped, hstands, rfl, rfl⟩

theorem start_lt_stop {text : String} (h : o ∈ occurrences text) : o.start < o.stop := by
  obtain ⟨before, opened, closed, rest, after, -, -, -, -, hstop⟩ := mem_occurrences_iff.1 h
  have hpos : 0 < utf8Size (o.reference.written opened closed) := by
    rw [Nat.pos_iff_ne_zero]
    intro hzero
    cases utf8Size_eq_zero hzero
  omega

theorem le_start_of_mem {pieces : List Piece} (h : o ∈ occurrencesFrom start pieces) :
    start ≤ o.start := by
  induction pieces generalizing start with
  | nil => cases h
  | cons piece rest ih =>
    cases piece with
    | plain chars => exact Nat.le_trans (Nat.le_add_right ..) (ih h)
    | reference r chars =>
      rcases List.mem_cons.1 h with rfl | h
      · exact Nat.le_refl _
      · exact Nat.le_trans (Nat.le_add_right ..) (ih h)

theorem pairwise_occurrencesFrom (start : Nat) (pieces : List Piece) :
    (occurrencesFrom start pieces).Pairwise fun o next => o.stop ≤ next.start := by
  induction pieces generalizing start with
  | nil => exact .nil
  | cons piece rest ih =>
    cases piece with
    | plain chars => exact ih _
    | reference r chars => exact .cons (fun next hn => le_start_of_mem hn) (ih _)

def cutAt? : List Char → Nat → Option (List Char × List Char)
  | text, 0 => some ([], text)
  | [], _ + 1 => none
  | c :: rest, n + 1 =>
    if c.utf8Size ≤ n + 1 then
      (cutAt? rest (n + 1 - c.utf8Size)).map fun halves => (c :: halves.1, halves.2)
    else none

def slice? (text : List Char) (first last : Nat) : Option (List Char) :=
  if first ≤ last then do
    let (front, _) ← cutAt? text last
    let (_, part) ← cutAt? front first
    return part
  else none

theorem cutAt?_append (front back : List Char) :
    cutAt? (front ++ back) (utf8Size front) = some (front, back) := by
  induction front with
  | nil => cases back <;> rfl
  | cons c front ih =>
    have hpos := c.utf8Size_pos
    rw [utf8Size_cons, List.cons_append]
    obtain ⟨n, hn⟩ : ∃ n, c.utf8Size + utf8Size front = n + 1 :=
      ⟨c.utf8Size + utf8Size front - 1, by omega⟩
    have hfits : c.utf8Size ≤ n + 1 := by omega
    have hleft : n + 1 - c.utf8Size = utf8Size front := by omega
    rw [hn, cutAt?, if_pos hfits, hleft, ih]
    rfl

theorem slice?_append (before part after : List Char) :
    slice? (before ++ part ++ after) (utf8Size before) (utf8Size (before ++ part)) = some part := by
  have hle : utf8Size before ≤ utf8Size (before ++ part) := by
    rw [utf8Size_append]
    exact Nat.le_add_right ..
  rw [slice?, if_pos hle, cutAt?_append]
  simp only [Option.bind_eq_bind, Option.bind_some, cutAt?_append]
  rfl

/-- The text from a byte on, where each occurrence gives way to what is found for its reference. The text
between them is sliced by their bytes; there is no result if a slice is out of range. -/
def spliceFrom? {ε : Type} (find : Reference → Except ε String) (text : List Char) :
    Nat → List Occurrence → Option (Except ε (List Char))
  | last, [] => (slice? text last (utf8Size text)).map .ok
  | last, o :: rest =>
    match find o.reference with
    | .error e => some (.error e)
    | .ok found => do
      let plain ← slice? text last o.start
      let filled ← spliceFrom? find text o.stop rest
      return filled.map fun chars => plain ++ found.toList ++ chars

/-- No slice is out of range, whatever the pieces of a text are: those before the last occurrence are
`before`, and those that have passed since are `plain`. -/
theorem spliceFrom?_eq {ε : Type} (find : Reference → Except ε String) (before plain : List Char)
    (pieces : List Piece) :
    spliceFrom? find (before ++ plain ++ chars pieces) (utf8Size before)
        (occurrencesFrom (utf8Size (before ++ plain)) pieces) =
      some ((fillPieces find pieces).map (plain ++ ·)) := by
  induction pieces generalizing before plain with
  | nil =>
    have hslice := slice?_append before plain []
    rw [List.append_nil] at hslice
    have htext : before ++ plain ++ chars [] = before ++ plain := List.append_nil _
    simp only [occurrencesFrom, spliceFrom?, htext, hslice, fillPieces, Option.map_some, Except.map,
      List.append_nil]
  | cons piece rest ih =>
    cases piece with
    | plain more =>
      have htext : before ++ plain ++ chars (.plain more :: rest) =
          before ++ (plain ++ more) ++ chars rest := by
        simp only [chars, List.flatMap_cons, Piece.chars, List.append_assoc]
      have hrest := ih before (plain ++ more)
      rw [← List.append_assoc before] at hrest
      rw [htext, occurrencesFrom, ← utf8Size_append, ← List.append_assoc before, hrest, fillPieces]
      rcases fillPieces find rest with e | filled <;> simp [Except.map]
    | reference r form =>
      have htext : before ++ plain ++ chars (.reference r form :: rest) =
          (before ++ plain ++ form) ++ [] ++ chars rest := by
        simp only [chars, List.flatMap_cons, Piece.chars, List.append_assoc, List.append_nil]
      have hslice : slice? (before ++ plain ++ chars (.reference r form :: rest)) (utf8Size before)
          (utf8Size (before ++ plain)) = some plain :=
        slice?_append ..
      have hrest := ih (before ++ plain ++ form) []
      rw [List.append_nil, utf8Size_append (before ++ plain)] at hrest
      rw [List.append_nil] at htext
      rw [← htext] at hrest
      simp only [occurrencesFrom, spliceFrom?, hslice, hrest, fillPieces]
      rcases find r with e | found
      · rfl
      · rcases fillPieces find rest with e | filled <;> simp [Except.map]

theorem spliceFrom?_occurrences {ε : Type} (find : Reference → Except ε String) (text : String) :
    spliceFrom? find text.toList 0 (occurrences text) = some (fillPieces find (pieces text)) := by
  have h := spliceFrom?_eq find [] [] (pieces text)
  have htext : chars (pieces text) = text.toList := chars_piecesFrom false text.toList
  have hmap : (fillPieces find (pieces text)).map ([] ++ ·) = fillPieces find (pieces text) := by
    rcases fillPieces find (pieces text) with e | filled <;> rfl
  rw [hmap, htext] at h
  exact h

end Template
end ClaimRules
