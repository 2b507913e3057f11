import ClaimRules.Reference.Basic

/-! Templates: texts in which references are replaced by values. -/

namespace ClaimRules

inductive Piece where
  | plain (chars : List Char)
  | reference (r : Reference) (chars : List Char)
  deriving DecidableEq, Repr

namespace Piece

def chars : Piece → List Char
  | .plain chars => chars
  | .reference _ chars => chars

end Piece

namespace Reference

theorem length_dropBrace_le (text : List Char) : (dropBrace text).length ≤ text.length := by
  unfold dropBrace
  split <;> simp

theorem length_readIndex_le (text : List Char) : (readIndex text).2.length ≤ text.length := by
  unfold readIndex
  split
  · next rest =>
    have h : (rest.dropWhile isNameChar).length ≤ rest.length :=
      (List.dropWhile_suffix _).length_le
    split
    · simp
    · next heq => simp_all; omega
    · simp
  · simp

theorem length_readName?_le {text rest : List Char} {r : Reference}
    (h : readName? text = some (r, rest)) : rest.length ≤ text.length := by
  unfold readName? at h
  split at h
  · simp at h
  · next c tail =>
    split at h
    · simp only [Option.some.injEq, Prod.mk.injEq] at h
      obtain ⟨_, rfl⟩ := h
      exact Nat.le_trans (length_dropBrace_le _)
        (Nat.le_trans (length_readIndex_le _) (List.dropWhile_suffix isNameChar).length_le)
    · simp at h

theorem length_read?_le {text rest : List Char} {r : Reference}
    (h : read? text = some (r, rest)) : rest.length ≤ text.length := by
  unfold read? at h
  split at h
  · exact Nat.le_trans (length_readName?_le h) (by simp)
  · exact length_readName?_le h

end Reference

namespace Template

/-- The pieces of a text whose preceding character was a backslash or not. A reference after a
backslash is plain text. -/
def piecesFrom (escaped : Bool) : List Char → List Piece
  | [] => []
  | c :: rest =>
    if c = '$' then
      match _h : Reference.read? rest with
      | some (r, after) =>
        let chars := '$' :: rest.take (rest.length - after.length)
        (if escaped then .plain chars else .reference r chars) :: piecesFrom false after
      | none => .plain [c] :: piecesFrom false rest
    else .plain [c] :: piecesFrom (c == '\\') rest
  termination_by text => text.length
  decreasing_by
    · have := Reference.length_read?_le _h
      simp only [List.length_cons]
      omega
    · simp
    · simp

def pieces (text : String) : List Piece := piecesFrom false text.toList

def utf8Size (chars : List Char) : Nat := chars.foldl (fun n c => n + c.utf8Size) 0

structure Occurrence where
  start : Nat
  stop : Nat
  reference : Reference
  deriving DecidableEq, Repr

def occurrencesFrom : Nat → List Piece → List Occurrence
  | _, [] => []
  | start, .plain chars :: rest => occurrencesFrom (start + utf8Size chars) rest
  | start, .reference r chars :: rest =>
    ⟨start, start + utf8Size chars, r⟩ :: occurrencesFrom (start + utf8Size chars) rest

def occurrences (text : String) : List Occurrence := occurrencesFrom 0 (pieces text)

def fillPieces {ε : Type} (find : Reference → Except ε String) :
    List Piece → Except ε (List Char)
  | [] => .ok []
  | .plain chars :: rest =>
    match fillPieces find rest with
    | .ok text => .ok (chars ++ text)
    | .error e => .error e
  | .reference r _ :: rest =>
    match find r with
    | .error e => .error e
    | .ok found =>
      match fillPieces find rest with
      | .ok text => .ok (found.toList ++ text)
      | .error e => .error e

end Template
end ClaimRules
