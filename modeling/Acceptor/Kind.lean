import Acceptor.Text.Quoted

/-!
Names of kinds: a closed set of kinds has a name for each, and other names are refused.
-/

namespace Acceptor

structure UnknownKind where
  family : String
  text : String
  deriving DecidableEq, Repr

def UnknownKind.message (unknown : UnknownKind) : String :=
  Text.quote unknown.text ++ " is not a valid " ++ unknown.family

def kindNamed {Kind : Type} (family : String) (name : Kind → String) (kinds : List Kind)
    (text : String) : Except UnknownKind Kind :=
  match kinds.find? fun kind => name kind == text with
  | some kind => .ok kind
  | none => .error ⟨family, text⟩

theorem name_of_kindNamed {Kind : Type} {family : String} {name : Kind → String}
    {kinds : List Kind} {text : String} {kind : Kind}
    (found : kindNamed family name kinds text = .ok kind) : name kind = text := by
  unfold kindNamed at found
  split at found
  next other search =>
    cases found
    simpa using List.find?_some search
  · contradiction

end Acceptor
