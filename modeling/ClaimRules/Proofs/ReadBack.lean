import ClaimRules.Proofs.Literals
import ClaimRules.Proofs.Parts
import Mathlib.Data.List.DropRight

/-! Printed values are read back. A text reads as something if the reader finds it there whatever follows;
this is shown for elements between commas, and from there for whole documents, on one line and on indented
lines alike. -/

namespace ClaimRules

namespace Entries

variable {α : Type}

theorem insert_of_not_mem {key : String} {entries : Entries α} (h : key ∉ keys entries)
    (value : α) : insert key value entries = entries ++ [(key, value)] := by
  induction entries with
  | nil => rfl
  | cons entry rest ih =>
    obtain ⟨k, v⟩ := entry
    obtain ⟨hk, hrest⟩ := not_or.1 (mt List.mem_cons.2 h)
    rw [insert, if_neg (Ne.symm hk), ih hrest, List.cons_append]

theorem ofPairs_of_distinct {entries : Entries α} (h : Distinct entries) :
    ofPairs entries = entries := by
  induction entries using List.reverseRecOn with
  | nil => rfl
  | append_singleton entries entry ih =>
    unfold Distinct keys at h
    rw [List.map_append, List.nodup_append] at h
    obtain ⟨hd, -, hfresh⟩ := h
    have hkey : entry.1 ∉ keys entries :=
      fun hk => hfresh _ hk _ (List.mem_singleton_self _) rfl
    rw [ofPairs_append_singleton, ih hd, insert_of_not_mem hkey]

end Entries

namespace Json

section Blanks

variable {blanks text : List Char}

theorem skipBlanks_append (h : blanks.all isBlank) : skipBlanks (blanks ++ text) = skipBlanks text :=
  List.dropWhile_append_of_pos (List.all_eq_true.1 h)

theorem skipBlanks_skipBlanks (text : List Char) : skipBlanks (skipBlanks text) = skipBlanks text :=
  List.dropWhile_idempotent _ _

theorem eq_of_isBlank {c : Char} (h : isBlank c = true) :
    c = ' ' ∨ c = '\n' ∨ c = '\t' ∨ c = '\r' := by
  simpa [isBlank, or_assoc] using h

theorem endsNumber_append (h : blanks.all isBlank) (ht : EndsNumber text) :
    EndsNumber (blanks ++ text) := by
  rcases blanks with _ | ⟨c, blanks⟩
  · exact ht
  · have hc : isBlank c = true := List.all_eq_true.1 h c List.mem_cons_self
    refine endsNumber_cons ?_
    rcases eq_of_isBlank hc with rfl | rfl | rfl | rfl <;> decide

theorem isBlank_newLine (level : Nat) : (newLine level).all isBlank := by
  simp [newLine, isBlank]

end Blanks

/-- The reader finds something at the front of the text, whatever follows that does not go on with a
number. -/
def Reads {α : Type} (read : Reader α) (text : List Char) (a : α) : Prop :=
  ∀ rest, EndsNumber rest → read (skipBlanks (text ++ rest)) = .ok (a, rest)

section Lists

variable {α : Type} {close : Char} {element : Reader α} {chunk : α → List Char} {items : List α}
  {tail rest : List Char}

theorem Reads.lead {text blanks : List Char} {a : α} (h : Reads element text a)
    (hb : blanks.all isBlank) : Reads element (blanks ++ text) a := by
  intro rest hrest
  rw [List.append_assoc, skipBlanks_append hb]
  exact h rest hrest

theorem readElements_skipBlanks (fuel : Nat) (text : List Char) :
    readElements close element fuel (skipBlanks text) = readElements close element fuel text := by
  cases fuel with
  | zero => rfl
  | succ fuel => rw [readElements, readElements, skipBlanks_skipBlanks]

theorem element_of_readElements {fuel : Nat} {text : List Char}
    (h : readElements close element fuel text = .ok (items, rest)) :
    ∃ found, element (skipBlanks text) = .ok found := by
  cases fuel with
  | zero => cases h
  | succ fuel =>
    obtain ⟨found, hfound, -⟩ := bind_eq_ok_iff.1 h
    exact ⟨found, hfound⟩

theorem intercalate_cons_cons (chunk next : List Char) (chunks : List (List Char)) :
    [','].intercalate (chunk :: next :: chunks) =
      chunk ++ ',' :: [','].intercalate (next :: chunks) := by
  rw [List.intercalate_cons_cons]
  simp

theorem readElements_intercalate (hc : close ≠ ',')
    (h : ∀ item ∈ items, Reads element (chunk item) item) (hne : items ≠ [])
    (htail : EndsNumber tail) (hclose : skipBlanks tail = close :: rest) {fuel : Nat}
    (hfuel : items.length ≤ fuel) :
    readElements close element fuel ([','].intercalate (items.map chunk) ++ tail) =
      .ok (items, rest) := by
  -- what follows an item is a comma, or else what closes the list; neither goes on with a number
  induction items generalizing fuel with
  | nil => exact absurd rfl hne
  | cons item items ih =>
    obtain ⟨fuel, rfl⟩ : ∃ less, fuel = less + 1 :=
      Nat.exists_eq_add_one.2 (Nat.lt_of_lt_of_le (Nat.succ_pos _) hfuel)
    have hitem : Reads element (chunk item) item := h item List.mem_cons_self
    rcases items with _ | ⟨next, items⟩
    · rw [List.map_singleton, List.intercalate_singleton, readElements]
      simp only [hitem tail htail, bind, Except.bind, hclose, if_pos]
    · set others := [','].intercalate ((next :: items).map chunk) ++ tail with hothers
      have hcomma : EndsNumber (',' :: others) := endsNumber_cons (by decide)
      have hskip : skipBlanks (',' :: others) = ',' :: others := rfl
      have hread : readElements close element fuel others = .ok (next :: items, rest) :=
        ih (fun item hi => h item (List.mem_cons_of_mem _ hi)) (by simp)
          (Nat.le_of_succ_le_succ hfuel)
      have htext : [','].intercalate ((item :: next :: items).map chunk) ++ tail =
          chunk item ++ ',' :: others := by
        rw [hothers, List.map_cons, List.map_cons, intercalate_cons_cons, List.append_assoc,
          List.cons_append]
      rw [htext, readElements]
      simp only [hitem _ hcomma, bind, Except.bind, hskip, if_neg hc.symm, if_pos, hread]

theorem length_le_intercalate (chunks : List (List Char)) :
    chunks.length ≤ ([','].intercalate chunks).length + 1 := by
  induction chunks with
  | nil => simp
  | cons chunk chunks ih =>
    rcases chunks with _ | ⟨next, chunks⟩
    · simp
    · rw [intercalate_cons_cons]
      simp only [List.length_append, List.length_cons] at ih ⊢
      omega

theorem readList_intercalate (hc : close ≠ ',') (hb : isBlank close = false)
    (hends : EndsNumber (close :: rest))
    (hbegin : ∀ {text found}, element text = .ok found → ∃ c more, text = c :: more ∧ c ≠ close)
    (h : ∀ item ∈ items, Reads element (chunk item) item) {blanks : List Char}
    (hblanks : blanks.all isBlank) :
    readList close element ([','].intercalate (items.map chunk) ++ (blanks ++ close :: rest)) =
      .ok (items, rest) := by
  have htail : EndsNumber (blanks ++ close :: rest) := endsNumber_append hblanks hends
  have hclose : skipBlanks (blanks ++ close :: rest) = close :: rest :=
    (skipBlanks_append hblanks).trans (List.dropWhile_cons_of_neg (by simp [hb]))
  rcases items with _ | ⟨item, items⟩
  · have htext : [','].intercalate (List.map chunk []) ++ (blanks ++ close :: rest) =
        blanks ++ close :: rest := rfl
    simp only [readList, htext, hclose, if_pos]
  set text := [','].intercalate ((item :: items).map chunk) ++ (blanks ++ close :: rest) with htext
  have hlength : (item :: items).length ≤ text.length := by
    have hle := length_le_intercalate ((item :: items).map chunk)
    rw [List.length_map] at hle
    simp only [htext, List.length_append, List.length_cons] at hle ⊢
    omega
  have hread : readElements close element text.length text = .ok (item :: items, rest) :=
    readElements_intercalate hc h (by simp) htail hclose hlength
  -- where the first element is read, the list is not closed
  obtain ⟨found, hfirst⟩ := element_of_readElements hread
  obtain ⟨c, more, hskip, hne⟩ := hbegin hfirst
  rw [← readElements_skipBlanks, hskip] at hread
  simp only [readList, hskip, if_neg hne, hread]

end Lists

section Documents

variable {levels : Nat} {text blanks : List Char} {doc : Json}

theorem reads_entry {value : Reader Json} (key : String) (h : Reads value text doc) :
    Reads (readEntry value) (quote key ++ ':' :: text) (key, doc) := by
  intro rest hrest
  have htext : quote key ++ ':' :: text ++ rest =
      '"' :: (key.toList.flatMap escapeChar ++ '"' :: ':' :: (text ++ rest)) := by
    simp [quote]
  have hquote (more : List Char) : skipBlanks ('"' :: more) = '"' :: more := rfl
  have hcolon (more : List Char) : skipBlanks (':' :: more) = ':' :: more := rfl
  rw [htext, hquote]
  simp only [readEntry, readChars_quoted, bind, Except.bind, hcolon, h rest hrest,
    String.ofList_toList]

theorem readValue_begins {found : Json × List Char} (h : readValue levels text = .ok found) :
    ∃ c more, text = c :: more ∧ c ≠ ']' := by
  rcases text with _ | ⟨c, more⟩
  · cases levels <;> cases h
  refine ⟨c, more, rfl, ?_⟩
  rintro rfl
  cases levels <;> cases h

theorem readEntry_begins {value : Reader Json} {found : (String × Json) × List Char}
    (h : readEntry value text = .ok found) : ∃ c more, text = c :: more ∧ c ≠ '\x7d' := by
  unfold readEntry at h
  split at h
  · exact ⟨'"', _, rfl, by decide⟩
  · cases h

theorem reads_array {docs : List Json} {chunk : Json → List Char} (hb : blanks.all isBlank)
    (h : ∀ doc ∈ docs, Reads (readValue levels) (chunk doc) doc) :
    Reads (readValue (levels + 1))
      ('[' :: [','].intercalate (docs.map chunk) ++ blanks ++ [']']) (.array docs) := by
  intro rest hrest
  have htext : '[' :: [','].intercalate (docs.map chunk) ++ blanks ++ [']'] ++ rest =
      '[' :: ([','].intercalate (docs.map chunk) ++ (blanks ++ ']' :: rest)) := by
    simp
  have hskip (more : List Char) : skipBlanks ('[' :: more) = '[' :: more := rfl
  have hends : EndsNumber (']' :: rest) := endsNumber_cons (by decide)
  have hlist := readList_intercalate (by decide) rfl hends readValue_begins h hb
  rw [htext, hskip, readValue]
  simp only [hlist, bind, Except.bind]
  rfl

theorem reads_object {members : Entries Json} {chunk : String × Json → List Char}
    (hb : blanks.all isBlank) (hd : members.Distinct)
    (h : ∀ member ∈ members, Reads (readEntry (readValue levels)) (chunk member) member) :
    Reads (readValue (levels + 1))
      ('\x7b' :: [','].intercalate (members.map chunk) ++ blanks ++ ['\x7d'])
      (.object members) := by
  intro rest hrest
  have htext : '\x7b' :: [','].intercalate (members.map chunk) ++ blanks ++ ['\x7d'] ++ rest =
      '\x7b' :: ([','].intercalate (members.map chunk) ++ (blanks ++ '\x7d' :: rest)) := by
    simp
  have hskip (more : List Char) : skipBlanks ('\x7b' :: more) = '\x7b' :: more := rfl
  have hends : EndsNumber ('\x7d' :: rest) := endsNumber_cons (by decide)
  have hlist := readList_intercalate (by decide) rfl hends readEntry_begins h hb
  rw [htext, hskip, readValue]
  simp only [hlist, bind, Except.bind, Entries.ofPairs_of_distinct hd]
  rfl

theorem readValue_number {c : Char} (h : c = '-' ∨ c.isDigit = true) (more : List Char) :
    readValue levels (c :: more) = readNumber (c :: more) := by
  have hne (other : Char) (ho : other ≠ '-') (hd : other.isDigit = false) : c ≠ other := by
    rintro rfl
    rcases h with h | h
    · exact ho h
    · rw [hd] at h
      cases h
  rw [readValue_zero (hne _ (by decide) rfl) (hne _ (by decide) rfl), readValue]
  rw [if_neg (hne _ (by decide) rfl), if_neg (hne _ (by decide) rfl),
    if_neg (hne _ (by decide) rfl), if_pos h]

theorem reads_integer (n : Int64) :
    Reads (readValue levels) (writeInt n.toInt) (.integer n) := by
  intro rest hrest
  obtain ⟨c, more, htext, hc⟩ := exists_lead_writeInt n.toInt
  have hblank : isBlank c = false := by
    rw [← Bool.not_eq_true]
    intro hb
    rcases eq_of_isBlank hb with rfl | rfl | rfl | rfl <;> simp at hc
  have hskip : skipBlanks (c :: more ++ rest) = c :: (more ++ rest) :=
    List.dropWhile_cons_of_neg (by simp [hblank])
  have hread := readNumber_writeInt n hrest
  rw [htext] at hread ⊢
  rw [hskip, readValue_number hc]
  exact hread

theorem reads_string (text : String) :
    Reads (readValue levels) (quote text) (.string text) := by
  intro rest hrest
  have htext : quote text ++ rest = '"' :: (text.toList.flatMap escapeChar ++ '"' :: rest) := by
    simp [quote]
  have hquote (more : List Char) : skipBlanks ('"' :: more) = '"' :: more := rfl
  rw [htext, hquote, readValue_zero (by decide) (by decide), readValue]
  simp only [if_pos, readChars_quoted, bind, Except.bind, String.ofList_toList]

end Documents

/-- The printer leaves scalars as they are, and parts the elements of arrays and objects by commas. It
may put blanks before each of them, before values of entries and before what closes the list. -/
structure LaysOut (print : Nat → Json → List Char) : Prop where
  scalar : ∀ level {doc : Json}, doc.depth = 0 → print level doc = writeScalar doc
  array : ∀ level docs, ∃ lead blanks : List Char, lead.all isBlank ∧ blanks.all isBlank ∧
    print level (.array docs) =
      '[' :: [','].intercalate (docs.map fun doc => lead ++ print (level + 1) doc) ++ blanks ++ [']']
  object : ∀ level members, ∃ lead gap blanks : List Char,
    lead.all isBlank ∧ gap.all isBlank ∧ blanks.all isBlank ∧
      print level (.object members) = '\x7b' :: [','].intercalate (members.map fun member =>
        lead ++ (quote member.1 ++ ':' :: (gap ++ print (level + 1) member.2))) ++ blanks ++ ['\x7d']

theorem eq_intercalate {α : Type} {print : List α → List Char} {one : α → List Char}
    (hnil : print [] = []) (hone : ∀ a, print [a] = one a)
    (hmore : ∀ a next rest, print (a :: next :: rest) = one a ++ ',' :: print (next :: rest))
    (items : List α) : print items = [','].intercalate (items.map one) := by
  induction items with
  | nil => exact hnil
  | cons a items ih =>
    rcases items with _ | ⟨next, rest⟩
    · rw [hone, List.map_singleton, List.intercalate_singleton]
    · rw [hmore, ih, List.map_cons, List.map_cons, List.map_cons, intercalate_cons_cons]

theorem laysOut_write : LaysOut fun _ => write where
  scalar _ doc hd := by
    cases doc with
    | array docs => cases hd
    | object members => cases hd
    | _ => rfl
  array _ docs := by
    have hitems : writeItems docs = [','].intercalate (docs.map write) :=
      eq_intercalate rfl (fun _ => rfl) (fun _ _ _ => rfl) docs
    exact ⟨[], [], rfl, rfl, by simp [write, hitems]⟩
  object _ members := by
    have hentries : writeEntries members =
        [','].intercalate (members.map fun member => quote member.1 ++ ':' :: write member.2) :=
      eq_intercalate rfl (fun _ => rfl) (fun _ _ _ => by simp [writeEntries]) members
    exact ⟨[], [], [], rfl, rfl, rfl, by simp [write, hentries]⟩

theorem laysOut_indent : LaysOut indent where
  scalar _ doc hd := by
    cases doc with
    | array docs => cases hd
    | object members => cases hd
    | _ => rfl
  array level docs := by
    have hitems : indentItems (level + 1) docs =
        [','].intercalate (docs.map fun doc => newLine (level + 1) ++ indent (level + 1) doc) :=
      eq_intercalate rfl (fun _ => rfl) (fun _ _ _ => rfl) docs
    rcases docs with _ | ⟨doc, docs⟩
    · exact ⟨[], [], rfl, rfl, rfl⟩
    · exact ⟨newLine (level + 1), newLine level, isBlank_newLine _, isBlank_newLine _, by
        rw [← hitems, indent]
        simp⟩
  object level members := by
    have hentries : indentEntries (level + 1) members = [','].intercalate (members.map fun member =>
        newLine (level + 1) ++ (quote member.1 ++ ':' :: ([' '] ++ indent (level + 1) member.2))) :=
      eq_intercalate rfl (fun _ => by simp [indentEntries]) (fun _ _ _ => by simp [indentEntries])
        members
    rcases members with _ | ⟨member, members⟩
    · exact ⟨[], [], [], rfl, rfl, rfl, rfl⟩
    · exact ⟨newLine (level + 1), [' '], newLine level, isBlank_newLine _, rfl, isBlank_newLine _, by
        rw [← hentries, indent]
        simp⟩

end Json

namespace Value

open Json

mutual

def depth : Value → Nat
  | .array items => depthOfItems items + 1
  | .map entries => depthOfEntries entries + 1
  | _ => 0

def depthOfItems : List Value → Nat
  | [] => 0
  | item :: rest => max (depth item) (depthOfItems rest)

def depthOfEntries : List (String × Value) → Nat
  | [] => 0
  | (_, value) :: rest => max (depth value) (depthOfEntries rest)

end

theorem depth_le_depthOfItems {item : Value} {items : List Value} (h : item ∈ items) :
    item.depth ≤ depthOfItems items := by
  induction items with
  | nil => cases h
  | cons first rest ih =>
    rw [depthOfItems]
    rcases List.mem_cons.1 h with rfl | h
    · exact le_max_left ..
    · exact (ih h).trans (le_max_right ..)

theorem depth_le_depthOfEntries {entry : String × Value} {entries : Entries Value}
    (h : entry ∈ entries) : entry.2.depth ≤ depthOfEntries entries := by
  induction entries with
  | nil => cases h
  | cons first rest ih =>
    rw [depthOfEntries]
    rcases List.mem_cons.1 h with rfl | h
    · exact le_max_left ..
    · exact (ih h).trans (le_max_right ..)

variable {value : Value}

theorem reads_scalar (hv : value.RealFree) (hd : value.depth = 0) (levels : Nat) :
    Reads (readValue levels) (writeScalar value.toJson) value.toJson := by
  have hword {c : Char} {word : List Char} {doc : Json} (hc : isBlank c = false) (ha : c ≠ '[')
      (ho : c ≠ '\x7b')
      (h : ∀ rest, readValue 0 (c :: (word ++ rest)) = .ok (doc, rest)) :
      Reads (readValue levels) (c :: word) doc := by
    intro rest _
    have hskip : skipBlanks (c :: word ++ rest) = c :: (word ++ rest) :=
      List.dropWhile_cons_of_neg (by simp [hc])
    rw [hskip, readValue_zero ha ho, h rest]
  cases value with
  | string text => exact reads_string text
  | integer n => exact reads_integer n
  | real x => exact (regular_real.1 hv).elim
  | boolean b =>
    cases b with
    | false => exact hword rfl (by decide) (by decide) fun rest => rfl
    | true => exact hword rfl (by decide) (by decide) fun rest => rfl
  | null => exact hword rfl (by decide) (by decide) fun rest => rfl
  | array items => cases hd
  | map entries => cases hd

theorem distinct_toJsonEntries {entries : Entries Value} (h : entries.Distinct) :
    Entries.Distinct (toJsonEntries entries) := by
  have hkeys : Entries.keys (toJsonEntries entries) = Entries.keys entries := by
    rw [toJsonEntries_eq_map, Entries.keys, List.map_map]
    rfl
  unfold Entries.Distinct at h ⊢
  rwa [hkeys]

theorem reads_of_laysOut {print : Nat → Json → List Char} (hp : LaysOut print)
    (hv : value.RealFree) {levels : Nat} (hd : value.depth ≤ levels) (level : Nat) :
    Reads (readValue levels) (print level value.toJson) value.toJson := by
  have hscalar {value : Value} (hv : value.RealFree) (hd : value.depth = 0)
      (hj : value.toJson.depth = 0) (levels level : Nat) :
      Reads (readValue levels) (print level value.toJson) value.toJson := by
    rw [hp.scalar level hj]
    exact reads_scalar hv hd levels
  induction value using Value.induction generalizing levels level with
  | array items ih =>
    obtain ⟨levels, rfl⟩ : ∃ less, levels = less + 1 :=
      Nat.exists_eq_add_one.2 (Nat.lt_of_lt_of_le (Nat.succ_pos _) hd)
    have hitems : depthOfItems items ≤ levels := Nat.le_of_succ_le_succ hd
    obtain ⟨lead, blanks, hlead, hblanks, htext⟩ := hp.array level (items.map toJson)
    rw [toJson, toJsonItems_eq_map, htext]
    refine reads_array hblanks (List.forall_mem_map.2 fun item hi => ?_)
    have hitem : Reads (readValue levels) (print (level + 1) item.toJson) item.toJson :=
      ih item hi (regular_array.1 hv item hi) ((depth_le_depthOfItems hi).trans hitems) _
    exact hitem.lead hlead
  | map entries ih =>
    obtain ⟨levels, rfl⟩ : ∃ less, levels = less + 1 :=
      Nat.exists_eq_add_one.2 (Nat.lt_of_lt_of_le (Nat.succ_pos _) hd)
    have hentries : depthOfEntries entries ≤ levels := Nat.le_of_succ_le_succ hd
    obtain ⟨hdistinct, hall⟩ := regular_map.1 hv
    obtain ⟨lead, gap, blanks, hlead, hgap, hblanks, htext⟩ := hp.object level (toJsonEntries entries)
    rw [toJson, htext]
    refine reads_object hblanks (distinct_toJsonEntries hdistinct) ?_
    rw [toJsonEntries_eq_map]
    refine List.forall_mem_map.2 fun entry he => ?_
    have hvalue : Reads (readValue levels) (print (level + 1) entry.2.toJson) entry.2.toJson :=
      ih entry he (hall entry he) ((depth_le_depthOfEntries he).trans hentries) _
    exact (reads_entry entry.1 (hvalue.lead hgap)).lead hlead
  | real x => exact (regular_real.1 hv).elim
  | _ => exact hscalar hv rfl rfl levels level

theorem load_of_reads {text : List Char} (hv : value.RealFree)
    (h : Reads (readValue levelLimit) text value.toJson) :
    (Json.ofText (.ofList text) >>= Value.load) = .ok value := by
  have hread := h [] endsNumber_nil
  rw [List.append_nil] at hread
  have hparse : parse (.ofList text) = .ok value.toJson := by
    unfold parse
    rw [String.toList_ofList, hread]
    rfl
  have hvalue : ofJson value.toJson = .ok value := ofJson_toJson fun x hx => (hv.reals x hx).elim
  simp only [Json.ofText, hparse, bind, Except.bind, load, hvalue]

/-- A value without reals that is not nested too deeply is read back from either of its texts, with the
entries of its maps in their order. -/
theorem load_printed (hv : value.RealFree) (hd : value.depth ≤ 127) :
    (Json.ofText value.compactJson >>= Value.load) = .ok value ∧
      (Json.ofText value.prettyJson >>= Value.load) = .ok value :=
  ⟨load_of_reads hv (reads_of_laysOut laysOut_write hv hd 0),
    load_of_reads hv (reads_of_laysOut laysOut_indent hv hd 0)⟩

theorem load_printed_escapes :
    let value : Value :=
      .map [("z\"\\\n\x01\x7f", .integer Int64.minValue),
        ("a", .array [.integer Int64.maxValue, .array [], .map [], .string "/é😀", .boolean true])]
    value.compactJson = "\x7b\"z\\\"\\\\\\n\\u0001\x7f\":-9223372036854775808,\"a\":" ++
        "[9223372036854775807,[],\x7b\x7d,\"/é😀\",true]\x7d" ∧
      value.depth = 3 ∧ (Json.ofText value.compactJson >>= Value.load) = .ok value ∧
      (Json.ofText value.prettyJson >>= Value.load) = .ok value := by
  intro value
  have hv : value.RealFree := by
    simp [value, regular_map, Entries.Distinct, Entries.keys]
  have hd : value.depth = 3 := rfl
  exact ⟨rfl, hd, load_printed hv (by omega)⟩

end Value
end ClaimRules
