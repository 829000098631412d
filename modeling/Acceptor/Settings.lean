import Acceptor.Text.Blank
import Acceptor.Text.Quoted

/-!
Settings for reading definitions, judging them and running batches, all checked when they
are made.
-/

namespace Acceptor

inductive Settings.Fault where
  | markerLength
  | markerTaken (marker : Char)
  | noWorkers
  deriving DecidableEq, Repr

def Settings.Fault.message : Settings.Fault → String
  | .markerLength => "comment_marker must be a single character"
  | .markerTaken marker => "comment_marker cannot be " ++ Text.quote (String.ofList [marker])
  | .noWorkers => "max_workers must be > 0"

/-- Blanks and the characters that have a meaning of their own cannot mark comments. -/
def isMarker (c : Char) : Bool :=
  !Text.isBlank c && !(c == ',' || c == ':' || c == '-' || c == '+')

structure CommentMarker where
  char : Char
  isMarker_char : isMarker char = true := by decide
  deriving DecidableEq, Repr

instance : Inhabited CommentMarker := ⟨{ char := '#' }⟩

def CommentMarker.ofString (text : String) : Except Settings.Fault CommentMarker :=
  match text.toList with
  | [c] => if allowed : isMarker c = true then .ok ⟨c, allowed⟩ else .error (.markerTaken c)
  | _ => .error .markerLength

structure Policy where
  /-- A missing transition is an error, not a warning. -/
  strict : Bool := false
  /-- States that no input reaches are warned of. -/
  reportUnreachable : Bool := true
  deriving DecidableEq, Repr, Inhabited

structure Workers where
  count : Nat
  count_pos : 0 < count := by decide
  deriving DecidableEq, Repr

instance : Inhabited Workers := ⟨{ count := 1 }⟩

def Workers.ofInt (number : Int) : Except Settings.Fault Workers :=
  if positive : 0 < number then
    .ok ⟨number.toNat, by omega⟩
  else
    .error .noWorkers

structure Settings where
  marker : CommentMarker := default
  policy : Policy := {}
  workers : Workers := default
  deriving DecidableEq, Repr, Inhabited

/-- Makes settings; the marker is checked before the number of workers. -/
def Settings.make (marker : String) (policy : Policy) (workers : Int) :
    Except Settings.Fault Settings := do
  let marker ← CommentMarker.ofString marker
  let workers ← Workers.ofInt workers
  return { marker, policy, workers }

theorem CommentMarker.ofString_eq_ok_iff {text : String} {marker : CommentMarker} :
    CommentMarker.ofString text = .ok marker ↔ text = String.ofList [marker.char] := by
  unfold CommentMarker.ofString
  constructor
  · intro found
    split at found
    next c shape =>
      split at found
      · cases found
        simp [← shape]
      · contradiction
    · contradiction
  · rintro rfl
    simp [marker.isMarker_char]

end Acceptor
