/-!
Transition tables: for each place of a state and each place of a symbol the place of the
target state, if there is one.

Every access is in range by its type.
-/

namespace Acceptor

abbrev Table (height width : Nat) :=
  Vector (Vector (Option (Fin height)) width) height

namespace Table

variable {height width : Nat}

def blank (height width : Nat) : Table height width :=
  Vector.replicate height (Vector.replicate width none)

def get? (table : Table height width) (state : Fin height) (symbol : Fin width) :
    Option (Fin height) :=
  table[state][symbol]

def put (table : Table height width) (state : Fin height) (symbol : Fin width)
    (target : Fin height) : Table height width :=
  table.set state (table[state].set symbol (some target))

@[simp] theorem get?_blank (state : Fin height) (symbol : Fin width) :
    (blank height width).get? state symbol = none := by
  simp [get?, blank]

theorem get?_put (table : Table height width) (state other : Fin height)
    (symbol wanted : Fin width) (target : Fin height) :
    (table.put state symbol target).get? other wanted =
      if state = other ∧ symbol = wanted then some target else table.get? other wanted := by
  simp only [get?, put, Fin.getElem_fin, Vector.getElem_set]
  by_cases sameState : state = other
  · subst sameState
    by_cases sameSymbol : symbol = wanted
    · subst sameSymbol
      simp
    · simp [sameSymbol, Fin.val_inj]
  · simp [sameState, Fin.val_inj]

/-- Writes the entries of a transition map into a table, one after another, each at the
places of its state and its symbol. -/
def ofEntries (states : List String) (alphabet : List Char)
    (entries : List ((String × Char) × String)) : Table states.length alphabet.length :=
  entries.foldl (fun table ((state, symbol), target) =>
    match states.finIdxOf? state, alphabet.finIdxOf? symbol, states.finIdxOf? target with
    | some state, some symbol, some target => table.put state symbol target
    | _, _, _ => table) (blank states.length alphabet.length)

end Table

end Acceptor
