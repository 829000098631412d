/-!
Commands of formulas: words that are followed by arguments.

Such a word ends where its letters end, whatever letters follow: no blank has to stand
between a command and its first argument.
-/

namespace Acceptor.Formula

inductive Command where
  | operatorName
  | fraction
  | displayFraction
  | binomial
  | generalFraction
  | overset
  | underset
  | root
  | overline
  | text
  | boldSymbol
  | stack
  | phantom
  | leftLap
  | rightLap
  /-- A space of a given width. -/
  | space
  deriving DecidableEq, Repr

namespace Command

def usageParts : Command → String × String
  | operatorName => ("operatorname", "\x7bname\x7d")
  | fraction => ("frac", "\x7bnum\x7d\x7bden\x7d")
  | displayFraction => ("dfrac", "\x7bnum\x7d\x7bden\x7d")
  | binomial => ("binom", "\x7bnum\x7d\x7bden\x7d")
  | generalFraction =>
      ("genfrac", "\x7bldelim\x7d\x7brdelim\x7d\x7brulesize\x7d\x7bstyle\x7d" ++
        "\x7bnum\x7d\x7bden\x7d")
  | overset => ("overset", "\x7bannotation\x7d\x7bbody\x7d")
  | underset => ("underset", "\x7bannotation\x7d\x7bbody\x7d")
  | root => ("sqrt", "\x7bvalue\x7d")
  | overline => ("overline", "\x7bbody\x7d")
  | text => ("text", "")
  | boldSymbol => ("boldsymbol", "\x7bvalue\x7d")
  | stack => ("substack", "\x7bparts\x7d")
  | phantom => ("phantom", "\x7bvalue\x7d")
  | leftLap => ("llap", "\x7bvalue\x7d")
  | rightLap => ("rlap", "\x7bvalue\x7d")
  | space => ("hspace", "\x7bspace\x7d")

def name (command : Command) : String :=
  command.usageParts.1

def word (command : Command) : String :=
  "\\" ++ command.name

def usage (command : Command) : String :=
  command.word ++ command.usageParts.2

def placeables : List Command :=
  [operatorName, fraction, displayFraction, binomial, generalFraction, overset, underset, root,
    overline, text, boldSymbol, stack, phantom, leftLap, rightLap]

/-- No command begins with another one, so their order does not matter. -/
example : placeables.Pairwise fun a b =>
    a.word.toList.isPrefixOf b.word.toList = false ∧
      b.word.toList.isPrefixOf a.word.toList = false := by
  decide +kernel

end Command

end Acceptor.Formula
