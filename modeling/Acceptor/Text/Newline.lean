/-!
Line endings and separators.

Every line ending, `\r\n`, `\r` or `\n`, becomes `\n` before a text is cut into lines.
`joinPairs` and `loneReturns` do so in two steps, `unifyAtOnce` in one.
-/

namespace Acceptor.Text

def joinPairs : List Char → List Char
  | '\r' :: '\n' :: rest => '\n' :: joinPairs rest
  | c :: rest => c :: joinPairs rest
  | [] => []

def loneReturns (text : List Char) : List Char :=
  text.map fun c => if c = '\r' then '\n' else c

/-- Writes every line ending as `\n`: the pairs first, then what is left of `\r`. -/
def unifyNewlines (text : List Char) : List Char :=
  loneReturns (joinPairs text)

/-- Writes every line ending as `\n`, reading the text once from left to right. -/
def unifyAtOnce : List Char → List Char
  | '\r' :: '\n' :: rest => '\n' :: unifyAtOnce rest
  | '\r' :: rest => '\n' :: unifyAtOnce rest
  | c :: rest => c :: unifyAtOnce rest
  | [] => []

/-- The pieces of a text between the characters that satisfy a test; there is one more
piece than such characters. -/
def splitWhere (isSeparator : Char → Bool) : List Char → List (List Char)
  | [] => [[]]
  | c :: rest =>
      if isSeparator c then
        [] :: splitWhere isSeparator rest
      else
        match splitWhere isSeparator rest with
        | [] => [[c]]
        | piece :: pieces => (c :: piece) :: pieces

def lines (text : List Char) : List (List Char) :=
  splitWhere (· == '\n') text

theorem splitWhere_ne_nil (isSeparator : Char → Bool) (text : List Char) :
    splitWhere isSeparator text ≠ [] := by
  cases text with
  | nil => simp [splitWhere]
  | cons c rest =>
      unfold splitWhere
      split
      · simp
      · split <;> simp

/-- The pieces hold nothing that the text does not hold. -/
theorem mem_of_mem_splitWhere {isSeparator : Char → Bool} {text piece : List Char} {c : Char}
    (isPiece : piece ∈ splitWhere isSeparator text) (membership : c ∈ piece) : c ∈ text := by
  induction text generalizing piece with
  | nil =>
      simp only [splitWhere, List.mem_singleton] at isPiece
      simp [isPiece] at membership
  | cons d rest inductionHypothesis =>
      unfold splitWhere at isPiece
      split at isPiece
      · rcases List.mem_cons.1 isPiece with rfl | inRest
        · simp at membership
        · exact List.mem_cons_of_mem d (inductionHypothesis inRest membership)
      · split at isPiece
        · simp only [List.mem_singleton] at isPiece
          subst isPiece
          exact List.mem_cons.2 (Or.inl (List.mem_singleton.1 membership))
        · rename_i first pieces split
          rcases List.mem_cons.1 isPiece with rfl | inPieces
          · rcases List.mem_cons.1 membership with rfl | inFirst
            · exact List.mem_cons_self
            · exact List.mem_cons_of_mem d
                (inductionHypothesis (split ▸ List.mem_cons_self) inFirst)
          · exact List.mem_cons_of_mem d
              (inductionHypothesis (split ▸ List.mem_cons_of_mem first inPieces) membership)

end Acceptor.Text
