import Acceptor.Text.Items
import Mathlib.Data.List.DropRight
import Mathlib.Data.List.TakeWhile

/-!
Texts taken apart: lines, fields and items, and the blanks at the ends of a text.

Splitting at a separator is compatible with putting texts together, so that each text that
is printed piece by piece is read piece by piece.
-/

namespace Acceptor.Text

theorem splitWhere_eq_splitOnP (isSeparator : Char → Bool) (text : List Char) :
    splitWhere isSeparator text = text.splitOnP isSeparator := by
  induction text with
  | nil => simp [splitWhere]
  | cons c rest inductionHypothesis =>
      rw [List.splitOnP_cons_eq_if_modifyHead, splitWhere, inductionHypothesis]
      split
      · rfl
      · cases pieces : rest.splitOnP isSeparator with
        | nil => exact absurd pieces (List.splitOnP_ne_nil isSeparator rest)
        | cons piece others => rfl

theorem splitWhere_append_cons {isSeparator : Char → Bool} {separator : Char}
    (separates : isSeparator separator = true) (before after : List Char) :
    splitWhere isSeparator (before ++ separator :: after) =
      splitWhere isSeparator before ++ splitWhere isSeparator after := by
  simp only [splitWhere_eq_splitOnP]
  exact List.splitOnP_append_cons before after separates

theorem splitWhere_of_forall {isSeparator : Char → Bool} {text : List Char}
    (unseparated : ∀ c ∈ text, isSeparator c = false) :
    splitWhere isSeparator text = [text] := by
  rw [splitWhere_eq_splitOnP]
  exact List.splitOnP_eq_singleton unseparated

/-- No piece holds a separator. -/
theorem not_isSeparator_of_mem_splitWhere {isSeparator : Char → Bool}
    {text piece : List Char} {c : Char} (isPiece : piece ∈ splitWhere isSeparator text)
    (membership : c ∈ piece) : isSeparator c = false := by
  induction text generalizing piece with
  | nil =>
      simp only [splitWhere, List.mem_singleton] at isPiece
      simp [isPiece] at membership
  | cons d rest inductionHypothesis =>
      unfold splitWhere at isPiece
      split at isPiece
      · rcases List.mem_cons.mp isPiece with rfl | inRest
        · simp at membership
        · exact inductionHypothesis inRest membership
      next unseparated =>
        have separates : isSeparator d = false := by simpa using unseparated
        split at isPiece
        · simp only [List.mem_singleton] at isPiece
          subst isPiece
          rw [List.mem_singleton.mp membership]
          exact separates
        next first others pieces =>
          rw [pieces] at inductionHypothesis
          rcases List.mem_cons.mp isPiece with rfl | inOthers
          · rcases List.mem_cons.mp membership with rfl | inFirst
            · exact separates
            · exact inductionHypothesis List.mem_cons_self inFirst
          · exact inductionHypothesis (List.mem_cons_of_mem first inOthers) membership

theorem prefix_of_splitWhere_eq_cons {isSeparator : Char → Bool} {text first : List Char}
    {others : List (List Char)} (pieces : splitWhere isSeparator text = first :: others) :
    first <+: text := by
  cases text with
  | nil =>
      cases pieces
      exact List.prefix_rfl
  | cons c rest =>
      unfold splitWhere at pieces
      split at pieces
      · cases pieces
        exact List.nil_prefix
      · split at pieces
        · cases pieces
          exact ⟨rest, rfl⟩
        next piece more split =>
          cases pieces
          exact List.cons_prefix_cons.mpr ⟨rfl, prefix_of_splitWhere_eq_cons split⟩

theorem infix_of_mem_splitWhere {isSeparator : Char → Bool} {text piece : List Char}
    (isPiece : piece ∈ splitWhere isSeparator text) : piece <:+: text := by
  induction text with
  | nil =>
      obtain rfl := List.mem_singleton.mp isPiece
      exact List.infix_rfl
  | cons c rest inductionHypothesis =>
      cases pieces : splitWhere isSeparator (c :: rest) with
      | nil => exact absurd pieces (splitWhere_ne_nil isSeparator (c :: rest))
      | cons first others =>
          rw [pieces] at isPiece
          rcases List.mem_cons.mp isPiece with rfl | inOthers
          · exact (prefix_of_splitWhere_eq_cons pieces).isInfix
          · apply List.infix_cons
            apply inductionHypothesis
            unfold splitWhere at pieces
            split at pieces
            · cases pieces
              exact inOthers
            · split at pieces
              · cases pieces
                contradiction
              next split =>
                cases pieces
                rw [split]
                exact List.mem_cons_of_mem _ inOthers

theorem mem_intercalate {separator : List Char} {parts : List (List Char)} {c : Char}
    (membership : c ∈ separator.intercalate parts) :
    c ∈ separator ∨ ∃ part ∈ parts, c ∈ part := by
  induction parts with
  | nil => simp at membership
  | cons part rest inductionHypothesis =>
      cases rest with
      | nil => exact Or.inr ⟨part, List.mem_cons_self, by simpa using membership⟩
      | cons second others =>
          rw [List.intercalate_cons_cons, List.append_assoc] at membership
          rcases List.mem_append.mp membership with inPart | inRest
          · exact Or.inr ⟨part, List.mem_cons_self, inPart⟩
          · rcases List.mem_append.mp inRest with inSeparator | inOthers
            · exact Or.inl inSeparator
            · refine (inductionHypothesis inOthers).imp_right ?_
              rintro ⟨other, inList, inOther⟩
              exact ⟨other, List.mem_cons_of_mem part inList, inOther⟩

/-! ## Blanks at the ends -/

theorem not_line_end_of_visible {c : Char} (visible : isBlank c = false) :
    c ≠ '\n' ∧ c ≠ '\r' := by
  constructor <;> rintro rfl <;> exact absurd visible (by decide)

theorem stripEnd_eq_rdropWhile (text : List Char) :
    stripEnd text = text.rdropWhile isBlank := rfl

theorem strip_eq_self {text : List Char}
    (head : ∀ c, text.head? = some c → isBlank c = false)
    (last : ∀ c, text.getLast? = some c → isBlank c = false) : strip text = text := by
  have started : stripStart text = text := by
    cases text with
    | nil => rfl
    | cons c rest => exact List.dropWhile_cons_of_neg (by simp [head c rfl])
  rw [strip, started, stripEnd_eq_rdropWhile, List.rdropWhile_eq_self_iff]
  intro nonempty
  simp [last _ (List.getLast?_eq_some_getLast nonempty)]

/-- A text is what is left of it with blanks on either side. -/
theorem exists_blanks_strip (text : List Char) :
    ∃ before after : List Char, text = before ++ strip text ++ after ∧
      (∀ c ∈ before, isBlank c = true) ∧ ∀ c ∈ after, isBlank c = true := by
  refine ⟨text.takeWhile isBlank, (stripStart text).rtakeWhile isBlank, ?_, ?_, ?_⟩
  · rw [strip, stripEnd_eq_rdropWhile, List.append_assoc,
      List.rdropWhile_append_rtakeWhile]
    exact List.takeWhile_append_dropWhile.symm
  · intro c membership
    exact List.mem_takeWhile_imp membership
  · intro c membership
    exact List.mem_rtakeWhile_imp membership

theorem strip_isInfix (text : List Char) : strip text <:+: text := by
  obtain ⟨before, after, parts, _, _⟩ := exists_blanks_strip text
  exact ⟨before, after, parts.symm⟩

theorem mem_of_mem_strip {text : List Char} {c : Char} (membership : c ∈ strip text) :
    c ∈ text :=
  (strip_isInfix text).subset membership

theorem isBlank_head_strip {text : List Char} {c : Char}
    (head : (strip text).head? = some c) : isBlank c = false := by
  obtain ⟨after, parts⟩ : strip text <+: stripStart text :=
    List.rdropWhile_prefix isBlank (stripStart text)
  have started : (stripStart text).head? = some c := by
    rw [← parts, List.head?_append, head]
    rfl
  have dropped := List.head?_dropWhile_not isBlank text
  rw [show text.dropWhile isBlank = stripStart text from rfl, started] at dropped
  simpa using dropped

theorem isBlank_getLast_strip {text : List Char} {c : Char}
    (last : (strip text).getLast? = some c) : isBlank c = false := by
  have nonempty : strip text ≠ [] := by
    intro empty
    simp [empty] at last
  have kept := List.rdropWhile_last_not isBlank (stripStart text) nonempty
  have equality : (strip text).getLast nonempty = c := by
    rw [List.getLast?_eq_some_getLast nonempty] at last
    exact Option.some.inj last
  rw [← equality]
  exact Bool.eq_false_iff.mpr kept

theorem strip_strip (text : List Char) : strip (strip text) = strip text :=
  strip_eq_self (fun _ => isBlank_head_strip) (fun _ => isBlank_getLast_strip)

/-- What stands after a character that is not blank can only lose blanks at its end. -/
theorem strip_append_cons {before : List Char} {c : Char}
    (head : ∀ d, before.head? = some d → isBlank d = false) (visible : isBlank c = false)
    (after : List Char) : strip (before ++ c :: after) = before ++ c :: stripEnd after := by
  have started : stripStart (before ++ c :: after) = before ++ c :: after := by
    cases before with
    | nil => exact List.dropWhile_cons_of_neg (by simp [visible])
    | cons d rest => exact List.dropWhile_cons_of_neg (by simp [head d rfl])
  rw [strip, started, stripEnd, stripEnd, List.reverse_append, List.reverse_cons,
    List.append_assoc, List.dropWhile_append]
  split
  next empty =>
    simp [List.isEmpty_iff.mp empty, visible]
  next => simp

/-! ## Items -/

theorem isItemSeparator_of_isBlank {c : Char} (blank : isBlank c = true) :
    isItemSeparator c = true := by
  simp [isItemSeparator, blank]

theorem isItemSeparator_eq_false_iff {c : Char} :
    isItemSeparator c = false ↔ c ≠ ',' ∧ isBlank c = false := by
  simp [isItemSeparator]

/-- The pieces of a text between commas and blanks, empty ones left out. -/
def visiblePieces (text : List Char) : List (List Char) :=
  (splitWhere isItemSeparator text).filter (· ≠ [])

theorem visiblePieces_append_cons {separator : Char}
    (separates : isItemSeparator separator = true) (before after : List Char) :
    visiblePieces (before ++ separator :: after) =
      visiblePieces before ++ visiblePieces after := by
  rw [visiblePieces, splitWhere_append_cons separates, List.filter_append]
  rfl

theorem visiblePieces_of_separators {text : List Char}
    (separators : ∀ c ∈ text, isItemSeparator c = true) : visiblePieces text = [] := by
  induction text with
  | nil => rfl
  | cons c rest inductionHypothesis =>
      have first := visiblePieces_append_cons (separators c List.mem_cons_self) [] rest
      rw [List.nil_append] at first
      rw [first, inductionHypothesis fun d membership =>
        separators d (List.mem_cons_of_mem c membership)]
      rfl

theorem visiblePieces_append_left {before : List Char}
    (separators : ∀ c ∈ before, isItemSeparator c = true) (text : List Char) :
    visiblePieces (before ++ text) = visiblePieces text := by
  induction before with
  | nil => rfl
  | cons c rest inductionHypothesis =>
      have first :=
        visiblePieces_append_cons (separators c List.mem_cons_self) [] (rest ++ text)
      rw [List.nil_append] at first
      rw [List.cons_append, first, inductionHypothesis fun d membership =>
        separators d (List.mem_cons_of_mem c membership)]
      rfl

theorem visiblePieces_append_right {after : List Char}
    (separators : ∀ c ∈ after, isItemSeparator c = true) (text : List Char) :
    visiblePieces (text ++ after) = visiblePieces text := by
  cases after with
  | nil => simp
  | cons c rest =>
      rw [visiblePieces_append_cons (separators c List.mem_cons_self),
        visiblePieces_of_separators fun d membership =>
          separators d (List.mem_cons_of_mem c membership),
        List.append_nil]

/-- Blanks at the ends of a text are separators like any others, so that stripping the text
first makes no difference to its items. -/
theorem items_eq_visiblePieces (text : List Char) : items text = visiblePieces text := by
  obtain ⟨before, after, parts, blankBefore, blankAfter⟩ := exists_blanks_strip text
  have stripped : visiblePieces text = visiblePieces (strip text) := by
    conv_lhs => rw [parts]
    rw [visiblePieces_append_right fun c membership =>
        isItemSeparator_of_isBlank (blankAfter c membership),
      visiblePieces_append_left fun c membership =>
        isItemSeparator_of_isBlank (blankBefore c membership)]
  rw [stripped]
  rfl

theorem items_append_cons {separator : Char} (separates : isItemSeparator separator = true)
    (before after : List Char) :
    items (before ++ separator :: after) = items before ++ items after := by
  simp only [items_eq_visiblePieces]
  exact visiblePieces_append_cons separates before after

theorem items_cons {separator : Char} (separates : isItemSeparator separator = true)
    (text : List Char) : items (separator :: text) = items text :=
  items_append_cons separates [] text

theorem items_stripEnd (text : List Char) : items (stripEnd text) = items text := by
  have parts : stripEnd text ++ text.rtakeWhile isBlank = text :=
    List.rdropWhile_append_rtakeWhile
  rw [items_eq_visiblePieces, items_eq_visiblePieces]
  conv_rhs => rw [← parts]
  refine (visiblePieces_append_right (fun c membership => ?_) _).symm
  exact isItemSeparator_of_isBlank (List.mem_rtakeWhile_imp membership)

theorem items_of_forall {name : List Char} (nonempty : name ≠ [])
    (unseparated : ∀ c ∈ name, isItemSeparator c = false) : items name = [name] := by
  rw [items_eq_visiblePieces, visiblePieces, splitWhere_of_forall unseparated]
  simp [nonempty]

theorem isItemSeparator_of_mem_items {text item : List Char} {c : Char}
    (isItem : item ∈ items text) (membership : c ∈ item) : isItemSeparator c = false :=
  not_isSeparator_of_mem_splitWhere (List.mem_filter.mp isItem).1 membership

theorem infix_of_mem_items {text item : List Char} (isItem : item ∈ items text) :
    item <:+: text :=
  (infix_of_mem_splitWhere (List.mem_filter.mp isItem).1).trans (strip_isInfix text)

/-- Names printed with a comma and a space between them are read back. -/
theorem items_intercalate {names : List (List Char)}
    (nonempty : ∀ name ∈ names, name ≠ [])
    (unseparated : ∀ name ∈ names, ∀ c ∈ name, isItemSeparator c = false) :
    items ([',', ' '].intercalate names) = names := by
  induction names with
  | nil => rfl
  | cons name rest inductionHypothesis =>
      have single : items name = [name] :=
        items_of_forall (nonempty name List.mem_cons_self)
          (unseparated name List.mem_cons_self)
      cases rest with
      | nil => simpa using single
      | cons second others =>
          rw [List.intercalate_cons_cons, List.append_assoc, List.cons_append,
            items_append_cons (by decide), List.cons_append, items_cons (by decide),
            List.nil_append, single,
            inductionHypothesis
              (fun other membership => nonempty other (List.mem_cons_of_mem name membership))
              (fun other membership =>
                unseparated other (List.mem_cons_of_mem name membership))]
          rfl

/-! ## Fields -/

theorem fields_intercalate {cells : List (List Char)} (nonempty : cells ≠ [])
    (unseparated : ∀ cell ∈ cells, ',' ∉ cell) (stripped : ∀ cell ∈ cells, strip cell = cell) :
    fields ([','].intercalate cells) = cells := by
  have split : splitWhere (· == ',') ([','].intercalate cells) = cells := by
    rw [splitWhere_eq_splitOnP, ← List.splitOn_eq_splitOnP]
    exact List.splitOn_intercalate ',' unseparated nonempty
  rw [fields, split]
  exact (List.map_congr_left stripped).trans (List.map_id' cells)

/-- Fields without blanks at their ends make a line without blanks at its ends. -/
theorem strip_intercalate {cells : List (List Char)}
    (stripped : ∀ cell ∈ cells, strip cell = cell) :
    strip ([','].intercalate cells) = [','].intercalate cells := by
  have visibleHead : ∀ cell ∈ cells, ∀ c, cell.head? = some c → isBlank c = false := by
    intro cell inCells c head
    rw [← stripped cell inCells] at head
    exact isBlank_head_strip head
  have visibleLast : ∀ cell ∈ cells, ∀ c, cell.getLast? = some c → isBlank c = false := by
    intro cell inCells c last
    rw [← stripped cell inCells] at last
    exact isBlank_getLast_strip last
  apply strip_eq_self
  · intro c head
    cases cells with
    | nil => contradiction
    | cons cell rest =>
        cases rest with
        | nil => exact visibleHead cell List.mem_cons_self c (by simpa using head)
        | cons second others =>
            rw [List.intercalate_cons_cons, List.append_assoc] at head
            -- If the first cell is empty, the comma behind it is the first character.
            cases shape : cell with
            | nil =>
                rw [shape] at head
                cases head
                decide
            | cons d more =>
                apply visibleHead cell List.mem_cons_self c
                rw [shape] at head ⊢
                exact head
  · clear stripped visibleHead
    induction cells with
    | nil => simp
    | cons cell rest inductionHypothesis =>
        intro c last
        cases rest with
        | nil => exact visibleLast cell List.mem_cons_self c (by simpa using last)
        | cons second others =>
            rw [List.intercalate_cons_cons, List.getLast?_append] at last
            -- If the last cell is empty, the comma before it is the last character.
            cases final : ([','].intercalate (second :: others)).getLast? with
            | none =>
                rw [final] at last
                simp only [Option.none_or, List.getLast?_concat, Option.some.injEq] at last
                subst last
                decide
            | some d =>
                rw [final] at last
                cases last
                apply inductionHypothesis
                · intro other membership
                  exact visibleLast other (List.mem_cons_of_mem cell membership)
                · exact final

theorem comma_not_mem_of_mem_fields {text field : List Char} (isField : field ∈ fields text) :
    ',' ∉ field := by
  obtain ⟨piece, isPiece, rfl⟩ := List.mem_map.mp isField
  intro membership
  have clean := not_isSeparator_of_mem_splitWhere isPiece (mem_of_mem_strip membership)
  simp at clean

theorem strip_of_mem_fields {text field : List Char} (isField : field ∈ fields text) :
    strip field = field := by
  obtain ⟨piece, _, rfl⟩ := List.mem_map.mp isField
  exact strip_strip piece

theorem mem_of_mem_fields {text field : List Char} {c : Char} (isField : field ∈ fields text)
    (membership : c ∈ field) : c ∈ text := by
  obtain ⟨piece, isPiece, rfl⟩ := List.mem_map.mp isField
  exact mem_of_mem_splitWhere isPiece (mem_of_mem_strip membership)

/-- A line that begins with its first field begins with the first character of it. -/
theorem head?_of_fields_eq_cons {text first : List Char} {others : List (List Char)} {c : Char}
    (head : text.head? = some c) (visible : isBlank c = false)
    (parts : fields text = first :: others) (nonempty : first ≠ []) :
    first.head? = some c := by
  cases text with
  | nil => contradiction
  | cons d rest =>
      cases head
      obtain ⟨piece, pieces, split, rfl, _⟩ := List.map_eq_cons_iff.mp parts
      unfold splitWhere at split
      split at split
      · cases split
        contradiction
      · split at split
        · cases split
          rw [strip_eq_self (by simp [visible]) (by simp [visible])]
          rfl
        next other more _ =>
          cases split
          have kept : strip ([] ++ c :: other) = [] ++ c :: stripEnd other :=
            strip_append_cons (by simp) visible other
          rw [List.nil_append] at kept
          rw [kept]
          rfl

/-! ## Lines -/

theorem joinPairs_of_not_mem {text : List Char} (plain : '\r' ∉ text) :
    joinPairs text = text := by
  fun_induction joinPairs text with
  | case1 rest => simp at plain
  | case2 c rest _ inductionHypothesis =>
      rw [inductionHypothesis fun membership => plain (List.mem_cons_of_mem c membership)]
  | case3 => rfl

theorem unifyNewlines_of_not_mem {text : List Char} (plain : '\r' ∉ text) :
    unifyNewlines text = text := by
  rw [unifyNewlines, joinPairs_of_not_mem plain, loneReturns]
  refine (List.map_congr_left fun c membership => ?_).trans (List.map_id' text)
  have different : c ≠ '\r' := fun equality => plain (equality ▸ membership)
  simp [different]

theorem return_not_mem_unifyNewlines (text : List Char) : '\r' ∉ unifyNewlines text := by
  intro membership
  obtain ⟨c, _, equality⟩ := List.mem_map.mp membership
  split at equality
  · exact absurd equality (by decide)
  next different => exact different equality

/-- Lines printed one after another, each with its end, are read back in front of any text. -/
theorem lines_flatMap_append {rows : List (List Char)} (unbroken : ∀ row ∈ rows, '\n' ∉ row)
    (rest : List Char) : lines (rows.flatMap (· ++ ['\n']) ++ rest) = rows ++ lines rest := by
  induction rows with
  | nil => rfl
  | cons row others inductionHypothesis =>
      obtain ⟨unbrokenHere, unbrokenLater⟩ := List.forall_mem_cons.mp unbroken
      have single : splitWhere (· == '\n') row = [row] := by
        refine splitWhere_of_forall fun c membership => ?_
        have different : c ≠ '\n' := fun equality => unbrokenHere (equality ▸ membership)
        simpa using different
      have later := inductionHypothesis unbrokenLater
      rw [lines] at later
      rw [List.flatMap_cons, List.append_assoc, List.append_assoc, List.singleton_append, lines,
        splitWhere_append_cons (by decide), single, later]
      rfl

/-- After the last line end there is an empty line. -/
theorem lines_flatMap {rows : List (List Char)} (unbroken : ∀ row ∈ rows, '\n' ∉ row) :
    lines (rows.flatMap (· ++ ['\n'])) = rows ++ [[]] := by
  have printed := lines_flatMap_append unbroken []
  rwa [List.append_nil] at printed

end Acceptor.Text
