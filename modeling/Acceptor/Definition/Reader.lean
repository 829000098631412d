import Acceptor.Definition.Grid
import Acceptor.Definition.Keyword

/-!
Reading a definition in either of its two forms.  The first significant line decides: one
with a colon or an arrow begins the keyword form, any other the table form.
-/

namespace Acceptor.Draft

/-- The line can only stand in a definition in keyword form. -/
def opensKeywordForm (line : Line) : Bool :=
  line.text.contains ':' || (Line.cutAtArrow? line.text).isSome

def ofLines : List Line → Except MalformedLine Draft
  | [] => .ok {}
  | first :: rest =>
      if opensKeywordForm first then Keyword.read (first :: rest)
      else Grid.read (first :: rest)

def ofText (marker : CommentMarker) (text : String) : Except MalformedLine Draft :=
  ofLines (Line.significant marker text.toList)

end Acceptor.Draft
