/-! Ordered maps: entries in the order in which their keys were first written. -/

namespace ClaimRules

abbrev Entries (α : Type) := List (String × α)

namespace Entries

variable {α : Type}

def keys (entries : Entries α) : List String := entries.map Prod.fst

def get? : Entries α → String → Option α
  | [], _ => none
  | (k, v) :: rest, key => if k = key then some v else get? rest key

def hasKey (entries : Entries α) (key : String) : Bool := (get? entries key).isSome

/-- A known key keeps its place and gets the new value; a new key goes to the end. -/
def insert (key : String) (value : α) : Entries α → Entries α
  | [] => [(key, value)]
  | (k, v) :: rest => if k = key then (k, value) :: rest else (k, v) :: insert key value rest

def ofPairs (pairs : List (String × α)) : Entries α :=
  pairs.foldl (fun entries pair => insert pair.1 pair.2 entries) []

def Distinct (entries : Entries α) : Prop := (keys entries).Nodup

@[simp] theorem get?_insert_self (key : String) (value : α) (entries : Entries α) :
    get? (insert key value entries) key = some value := by
  induction entries with
  | nil => simp [insert, get?]
  | cons entry rest ih =>
    obtain ⟨k, v⟩ := entry
    by_cases h : k = key <;> simp [insert, get?, h, ih]

theorem get?_insert_of_ne {key other : String} (h : other ≠ key) (value : α)
    (entries : Entries α) : get? (insert key value entries) other = get? entries other := by
  induction entries with
  | nil => simp [insert, get?, h.symm]
  | cons entry rest ih =>
    obtain ⟨k, v⟩ := entry
    by_cases hk : k = key
    · subst hk
      simp [insert, get?, h.symm]
    · by_cases ho : k = other
      · subst ho
        simp [insert, get?, hk]
      · simp [insert, get?, hk, ho, ih]

theorem mem_of_get? {entries : Entries α} {key : String} {value : α}
    (h : get? entries key = some value) : (key, value) ∈ entries := by
  induction entries with
  | nil => simp [get?] at h
  | cons entry rest ih =>
    obtain ⟨k, v⟩ := entry
    unfold get? at h
    split at h
    · next hk =>
      rw [hk, Option.some.inj h]
      exact List.mem_cons_self
    · exact List.mem_cons_of_mem _ (ih h)

theorem keys_insert (key : String) (value : α) (entries : Entries α) :
    keys (insert key value entries) =
      if key ∈ keys entries then keys entries else keys entries ++ [key] := by
  induction entries with
  | nil => simp [insert, keys]
  | cons entry rest ih =>
    obtain ⟨k, v⟩ := entry
    by_cases hk : k = key
    · simp [insert, keys, hk]
    · have hk' : ¬key = k := fun h => hk h.symm
      simp only [keys] at ih
      by_cases hm : key ∈ rest.map Prod.fst
      · simp [insert, keys, hk, ih, hm]
      · simp only [insert, hk, if_false, keys, List.map_cons, ih, hm, List.mem_cons, hk', or_self,
          List.cons_append]

theorem distinct_insert {entries : Entries α} (h : Distinct entries) (key : String) (value : α) :
    Distinct (insert key value entries) := by
  unfold Distinct at *
  rw [keys_insert]
  split
  · exact h
  · next hm =>
    rw [List.nodup_append]
    exact ⟨h, by simp, by intro a ha b hb; simp at hb; subst hb; exact fun e => hm (e ▸ ha)⟩

end Entries
end ClaimRules
