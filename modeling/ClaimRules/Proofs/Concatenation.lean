import ClaimRules.Proofs.LoneReferences

/-! Templates put together. A reference that stands in a text still stands there when another text
follows, unless that text goes on with it. So a template may be filled part by part, and what is
filled in is not read as a template again. -/

namespace ClaimRules

namespace Reference

variable {r : Reference} {opened closed : Bool} {text after front back run rest : List Char}
  {c : Char}

/-- A text that goes on with no written form. -/
def Apart (text : List Char) : Prop := ∀ c ∈ text.head?, isFormChar c = false

theorem Apart.exists_front (hb : Apart back) (hrun : ∀ c ∈ run, isFormChar c = true)
    (h : front ++ back = run ++ rest) : ∃ more, front = run ++ more := by
  rcases List.append_eq_append_iff.1 h with ⟨more, hmore, hback⟩ | ⟨more, hfront, -⟩
  · cases more with
    | nil => exact ⟨[], by rw [hmore, List.append_nil, List.append_nil]⟩
    | cons c more =>
      have hform : isFormChar c = true := hrun c (by simp [hmore])
      have hapart : isFormChar c = false := hb c (by simp [hback])
      cases hform.symm.trans hapart
  · exact ⟨more, hfront⟩

theorem Apart.isNameChar_eq_false (hb : Apart back) (hc : c ∈ back.head?) :
    isNameChar c = false := by
  have hform : isFormChar c = false := hb c hc
  rw [isFormChar, Bool.or_eq_false_iff] at hform
  exact hform.1

theorem LacksIndex.append (h : LacksIndex text) (hb : Apart back) : LacksIndex (text ++ back) := by
  intro index rest hindex heq
  have hrun : ∀ c ∈ '[' :: (index ++ [']']), isFormChar c = true := by
    intro c hc
    simp only [List.mem_cons, List.mem_append, List.not_mem_nil, or_false] at hc
    rcases hc with rfl | hc | rfl
    · rfl
    · exact isFormChar_of_isNameChar (hindex.all c hc)
    · rfl
  have hsplit : text ++ back = '[' :: (index ++ [']']) ++ rest := by simpa using heq
  obtain ⟨more, hmore⟩ := hb.exists_front hrun hsplit
  exact h index more hindex (by simpa using hmore)

theorem Stands.append (h : r.Stands opened closed text after) (hb : Apart back) :
    r.Stands opened closed (text ++ back) (after ++ back) where
  text_eq := by rw [h.text_eq, List.append_assoc]
  writable := h.writable
  name_ends := by
    intro c hc
    rw [← List.append_assoc, List.head?_append, Option.mem_def, Option.or_eq_some_iff] at hc
    rcases hc with hc | ⟨-, hc⟩
    · exact h.name_ends c hc
    · exact hb.isNameChar_eq_false hc
  index_taken := by
    intro hi
    rw [← List.append_assoc]
    exact (h.index_taken hi).append hb
  brace_taken := by
    intro hclosed hhead
    rw [List.head?_append, Option.or_eq_some_iff] at hhead
    rcases hhead with hhead | ⟨-, hhead⟩
    · exact h.brace_taken hclosed hhead
    · cases hb _ hhead

theorem Opens.of_append (hb : Apart back) (h : Opens (c :: rest ++ back)) : Opens (c :: rest) := by
  obtain ⟨opened, d, after, halpha, heq⟩ := h
  obtain ⟨rfl, htail⟩ := List.cons.inj heq
  have hrun : ∀ e ∈ brace opened '\x7b' ++ [d], isFormChar e = true := by
    intro e he
    rcases List.mem_append.1 he with he | he
    · exact isFormChar_of_mem_brace rfl he
    · rw [List.mem_singleton.1 he]
      exact isFormChar_of_isNameChar (isNameChar_of_isAlpha halpha)
  have hsplit : rest ++ back = brace opened '\x7b' ++ [d] ++ after := by
    rw [List.append_assoc]
    exact htail
  obtain ⟨more, hmore⟩ := hb.exists_front hrun hsplit
  rw [List.append_assoc] at hmore
  exact ⟨opened, d, more, halpha, congrArg ('$' :: ·) hmore⟩

end Reference

namespace Template

open Reference (Apart)

variable {r : Reference} {opened closed escaped : Bool} {front back after : List Char}
  {text : String} {bindings : Bindings}

theorem piecesFrom_append (hb : Apart back) (escaped : Bool) (front : List Char) :
    piecesFrom escaped (front ++ back) =
      piecesFrom escaped front ++ piecesFrom (endsEscaped escaped front) back := by
  induction front using scan_induction generalizing escaped with
  | nil =>
    have hnil : piecesFrom escaped [] = [] := by rw [piecesFrom]
    rw [hnil]
    rfl
  | reference r opened closed text after h ih =>
    have hends : endsEscaped escaped text = endsEscaped false after := by
      rw [h.text_eq, endsEscaped_append_written h.writable]
    rw [piecesFrom_of_stands escaped (h.append hb), piecesFrom_of_stands escaped h, hends, ih,
      List.cons_append]
  | char c rest h ih =>
    have hopens : ¬ Reference.Opens (c :: (rest ++ back)) := fun ho => h (.of_append hb ho)
    rw [List.cons_append, piecesFrom_of_not_opens escaped hopens, piecesFrom_of_not_opens escaped h,
      endsEscaped_cons, ih, List.cons_append]

theorem piecesFrom_eq_of_head? (h : back.head? ≠ some '$') :
    piecesFrom escaped back = piecesFrom false back := by
  cases back with
  | nil => rw [piecesFrom, piecesFrom]
  | cons c rest =>
    have hopens : ¬ Reference.Opens (c :: rest) := by
      rintro ⟨opened, d, after, -, heq⟩
      rw [(List.cons.inj heq).1] at h
      exact h rfl
    rw [piecesFrom_of_not_opens escaped hopens, piecesFrom_of_not_opens false hopens]

/-- Two texts that may be filled apart: the second one neither goes on with a reference at the end
of the first, nor begins with one that the first escapes. -/
structure Separable (front back : List Char) : Prop where
  apart : Apart back
  unescaped : front.getLast? = some '\\' → back.head? ≠ some '$'

theorem pieces_append {front back : String} (h : Separable front.toList back.toList) :
    pieces (front ++ back) = pieces front ++ pieces back := by
  have hback : piecesFrom (endsEscaped false front.toList) back.toList =
      piecesFrom false back.toList := by
    by_cases hlast : front.toList.getLast? = some '\\'
    · exact piecesFrom_eq_of_head? (h.unescaped hlast)
    · rw [endsEscaped_false_iff.2 hlast]
  rw [pieces, String.toList_append, piecesFrom_append h.apart, hback]
  rfl

theorem pieces_append_of_stands {form rest : String}
    (h : r.Stands opened closed (form ++ rest).toList rest.toList) :
    pieces (form ++ rest) = pieces form ++ pieces rest := by
  have hform : form.toList = r.written opened closed := by
    have htext := h.text_eq
    rw [String.toList_append] at htext
    exact List.append_cancel_right htext
  have hstands : r.Stands opened closed form.toList [] := by
    rw [hform]
    exact Reference.stands_written h.writable opened closed
  rw [pieces_of_stands hstands, hform, pieces, piecesFrom_of_stands false h]
  rfl

theorem fillPieces_append {ε : Type} (find : Reference → Except ε String)
    (front back : List Piece) :
    fillPieces find (front ++ back) = do
      let first ← fillPieces find front
      let second ← fillPieces find back
      return first ++ second := by
  induction front with
  | nil =>
    rw [List.nil_append]
    rcases h : fillPieces find back with e | second <;> rfl
  | cons piece front ih =>
    rw [List.cons_append]
    cases piece with
    | plain chars =>
      simp only [fillPieces, ih]
      rcases fillPieces find front with e | first
      · rfl
      · rcases fillPieces find back with e | second
        · rfl
        · exact congrArg Except.ok (List.append_assoc chars first second).symm
    | reference r chars =>
      simp only [fillPieces, ih]
      rcases find r with e | found
      · rfl
      · rcases fillPieces find front with e | first
        · rfl
        · rcases fillPieces find back with e | second
          · rfl
          · exact congrArg Except.ok (List.append_assoc found.toList first second).symm

theorem substitute_of_pieces {front back : String} (h : pieces text = pieces front ++ pieces back) :
    substitute text bindings = do
      let first ← substitute front bindings
      let second ← substitute back bindings
      return first ++ second := by
  simp only [substitute, h, fillPieces_append]
  rcases fillPieces (fun r => (r.resolve bindings).map Value.splice) (pieces front) with e | first
  · rfl
  · rcases fillPieces (fun r => (r.resolve bindings).map Value.splice) (pieces back) with e | second
    · rfl
    · exact congrArg Except.ok String.ofList_append

theorem fillPieces_of_no_occurrences {ε : Type} (find : Reference → Except ε String) {start : Nat}
    {pieces : List Piece} (h : occurrencesFrom start pieces = []) :
    fillPieces find pieces = .ok (chars pieces) := by
  induction pieces generalizing start with
  | nil => rfl
  | cons piece rest ih =>
    cases piece with
    | plain more => simp only [fillPieces, ih h, chars, List.flatMap_cons, Piece.chars]
    | reference r form => cases h

theorem substitute_of_no_occurrences (h : occurrences text = []) :
    substitute text bindings = .ok text := by
  rw [substitute, fillPieces_of_no_occurrences _ h, pieces, chars_piecesFrom]
  exact congrArg Except.ok String.ofList_toList

theorem substitute_of_occurrence {o : Occurrence} (h : o ∈ occurrences text) :
    ∃ before form after : String, text = before ++ form ++ after ∧
      utf8Size before.toList = o.start ∧ utf8Size (before ++ form).toList = o.stop ∧
      substitute text bindings = do
        let first ← substitute before bindings
        let value ← o.reference.resolve bindings
        let second ← substitute after bindings
        return first ++ value.splice ++ second := by
  obtain ⟨before, opened, closed, rest, after, htext, hescaped, hstands, hstart, hstop⟩ :=
    mem_occurrences_iff.1 h
  set form := String.ofList (o.reference.written opened closed) with hform
  have hrest : rest = (form ++ .ofList after).toList := by
    rw [hstands.text_eq, String.toList_append, hform, String.toList_ofList, String.toList_ofList]
  have hwhole : text = .ofList before ++ (form ++ .ofList after) := by
    rw [← String.toList_inj, String.toList_append, String.toList_ofList, ← hrest, htext]
  have hsep : Separable (String.ofList before).toList (form ++ .ofList after).toList := by
    rw [← hrest, String.toList_ofList, hstands.text_eq]
    refine ⟨?_, fun hlast => absurd hlast hescaped⟩
    rintro _ ⟨⟩
    rfl
  have hfirst : o.reference.Stands opened closed (form ++ .ofList after).toList
      (String.ofList after).toList := by
    rwa [← hrest, String.toList_ofList]
  have hsecond : pieces (form ++ .ofList after) = pieces form ++ pieces (.ofList after) :=
    pieces_append_of_stands hfirst
  have hwritten : o.reference.Stands opened closed form.toList [] := by
    rw [hform, String.toList_ofList]
    exact Reference.stands_written hstands.writable opened closed
  have hlone : Lone form o.reference := lone_of_stands hwritten
  refine ⟨.ofList before, form, .ofList after, ?_, ?_, ?_, ?_⟩
  · rw [hwhole, String.append_assoc]
  · rw [String.toList_ofList, hstart]
  · rw [hstop, hstart, String.toList_append, utf8Size_append, hform, String.toList_ofList,
      String.toList_ofList]
  · have hpieces : pieces text = pieces (.ofList before) ++ pieces (form ++ .ofList after) :=
      hwhole ▸ pieces_append hsep
    rw [substitute_of_pieces hpieces, substitute_of_pieces hsecond, substitute_of_lone hlone]
    rcases substitute (.ofList before) bindings with e | first
    · rfl
    · rcases o.reference.resolve bindings with e | value
      · rfl
      · rcases substitute (.ofList after) bindings with e | second
        · rfl
        · exact congrArg Except.ok String.append_assoc.symm

/-- A template that is put together from two may be filled in two parts, unless the second one goes
on with a reference of the first or is escaped by it; the error of the first part comes first.
Without a reference nothing changes. The text of a value takes the place of its reference as it is:
the template is filled before it and after it, and what stands in the value is not read. -/
theorem substitute_compositional (bindings : Bindings) :
    (∀ front back : String, Separable front.toList back.toList →
      substitute (front ++ back) bindings = do
        let first ← substitute front bindings
        let second ← substitute back bindings
        return first ++ second) ∧
    (∀ text, occurrences text = [] → substitute text bindings = .ok text) ∧
    ∀ text, ∀ o ∈ occurrences text, ∃ before form after : String, text = before ++ form ++ after ∧
      utf8Size before.toList = o.start ∧ utf8Size (before ++ form).toList = o.stop ∧
      substitute text bindings = do
        let first ← substitute before bindings
        let value ← o.reference.resolve bindings
        let second ← substitute after bindings
        return first ++ value.splice ++ second :=
  ⟨fun _ _ h => substitute_of_pieces (pieces_append h), fun _ => substitute_of_no_occurrences,
    fun _ _ => substitute_of_occurrence⟩

theorem substitute_compositional_verbatim :
    let bindings : Bindings := [("x", .string "$y")]
    let o : Occurrence := ⟨4, 6, ⟨"x", none⟩⟩
    Separable "\\$x $x[0".toList "-$x".toList ∧
      substitute ("\\$x $x[0" ++ "-$x") bindings = .ok "\\$x $y[0-$y" ∧
      occurrences "\\$y" = [] ∧ substitute "\\$y" bindings = .ok "\\$y" ∧
      o ∈ occurrences "\\$x $x[0" ∧
      ∃ before form after : String, "\\$x $x[0" = before ++ form ++ after ∧
        utf8Size before.toList = 4 ∧ utf8Size (before ++ form).toList = 6 ∧
        substitute "\\$x $x[0" bindings = do
          let first ← substitute before bindings
          let value ← o.reference.resolve bindings
          let second ← substitute after bindings
          return first ++ value.splice ++ second := by
  intro bindings o
  obtain ⟨hseam, hplain, hvalue⟩ := substitute_compositional bindings
  have hseparable : Separable "\\$x $x[0".toList "-$x".toList :=
    ⟨by rintro _ ⟨⟩; rfl, by decide⟩
  have hfront : pieces "\\$x $x[0" = [.plain ['\\'], .plain ['$', 'x'], .plain [' '],
      .reference ⟨"x", none⟩ ['$', 'x'], .plain ['['], .plain ['0']] := by decide +kernel
  have hback : pieces "-$x" = [.plain ['-'], .reference ⟨"x", none⟩ ['$', 'x']] := by decide +kernel
  have hwhole : substitute ("\\$x $x[0" ++ "-$x") bindings = .ok "\\$x $y[0-$y" := by
    rw [hseam _ _ hseparable, substitute, substitute, hfront, hback]
    rfl
  have hnone : occurrences "\\$y" = [] := by decide +kernel
  have hmem : o ∈ occurrences "\\$x $x[0" := by decide +kernel
  exact ⟨hseparable, hwhole, hnone, hplain _ hnone, hmem, hvalue _ o hmem⟩

end Template
end ClaimRules
