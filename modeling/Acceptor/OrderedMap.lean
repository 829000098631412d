/-!
Finite maps that remember the order in which their keys came.

A key keeps the place of its first insertion, and its value is the last one inserted.
`get?_insert` and `keys_insert` say what an insertion does to the map's two views.
-/

namespace Acceptor

/-- A finite map as a list of entries with distinct keys, in order of first insertion. -/
structure OrderedMap (Key : Type) (Value : Type) where
  /-- The entries, in order of first insertion. -/
  entries : List (Key × Value)
  /-- No key occurs twice. -/
  keys_nodup : (entries.map Prod.fst).Nodup

namespace OrderedMap

variable {Key : Type} {Value : Type}

instance [BEq Key] [BEq Value] : BEq (OrderedMap Key Value) :=
  ⟨fun left right => left.entries == right.entries⟩

instance [DecidableEq Key] [DecidableEq Value] : DecidableEq (OrderedMap Key Value) :=
  fun left right =>
    if equality : left.entries = right.entries then
      .isTrue (by cases left; cases right; cases equality; rfl)
    else
      .isFalse fun same => equality (same ▸ rfl)

instance [Repr Key] [Repr Value] : Repr (OrderedMap Key Value) :=
  ⟨fun map precedence => reprPrec map.entries precedence⟩

def empty : OrderedMap Key Value := ⟨[], by simp⟩

instance : Inhabited (OrderedMap Key Value) := ⟨empty⟩

def keys (map : OrderedMap Key Value) : List Key :=
  map.entries.map Prod.fst

variable [DecidableEq Key]

def find? (key : Key) : List (Key × Value) → Option Value
  | [] => none
  | (other, value) :: rest => if other = key then some value else find? key rest

/-- Gives a key a value: in the key's place, or at the end if it is new. -/
def put (key : Key) (value : Value) : List (Key × Value) → List (Key × Value)
  | [] => [(key, value)]
  | (other, old) :: rest =>
      if other = key then (other, value) :: rest else (other, old) :: put key value rest

theorem map_fst_put (key : Key) (value : Value) (entries : List (Key × Value)) :
    (put key value entries).map Prod.fst =
      if key ∈ entries.map Prod.fst then entries.map Prod.fst
      else entries.map Prod.fst ++ [key] := by
  induction entries with
  | nil => simp [put]
  | cons entry rest inductionHypothesis =>
      rcases entry with ⟨other, old⟩
      by_cases same : other = key
      · simp [put, same]
      · by_cases inRest : key ∈ rest.map Prod.fst
        · simp only [inRest, if_true] at inductionHypothesis
          simp [put, same, inductionHypothesis, inRest]
        · simp only [inRest, if_false] at inductionHypothesis
          simp [put, same, inductionHypothesis, inRest, Ne.symm same]

theorem find?_put (key other : Key) (value : Value) (entries : List (Key × Value)) :
    find? other (put key value entries) =
      if key = other then some value else find? other entries := by
  induction entries with
  | nil => simp [put, find?]
  | cons entry rest inductionHypothesis =>
      rcases entry with ⟨first, old⟩
      by_cases same : first = key
      · subst same
        by_cases wanted : first = other <;> simp [put, find?, wanted]
      · by_cases wanted : first = other
        · subst wanted
          simp [put, find?, same, Ne.symm same]
        · simp [put, find?, same, wanted, inductionHypothesis]

def get? (map : OrderedMap Key Value) (key : Key) : Option Value :=
  find? key map.entries

def insert (map : OrderedMap Key Value) (key : Key) (value : Value) :
    OrderedMap Key Value where
  entries := put key value map.entries
  keys_nodup := by
    rw [map_fst_put]
    split
    · exact map.keys_nodup
    next fresh =>
      exact List.nodup_append.mpr ⟨map.keys_nodup, by simp, by
        intro present membership added inAdded equality
        simp only [List.mem_singleton] at inAdded
        subst inAdded
        exact fresh (equality ▸ membership)⟩

@[simp] theorem get?_empty (key : Key) : (empty : OrderedMap Key Value).get? key = none := rfl

theorem get?_insert (map : OrderedMap Key Value) (key other : Key) (value : Value) :
    (map.insert key value).get? other =
      if key = other then some value else map.get? other :=
  find?_put key other value map.entries

theorem keys_insert (map : OrderedMap Key Value) (key : Key) (value : Value) :
    (map.insert key value).keys =
      if key ∈ map.keys then map.keys else map.keys ++ [key] :=
  map_fst_put key value map.entries

def insertAll (map : OrderedMap Key Value) (entries : List (Key × Value)) :
    OrderedMap Key Value :=
  entries.foldl (fun map entry => map.insert entry.1 entry.2) map

/-- The map of a list of entries; of entries with one key the last counts. -/
def ofList (entries : List (Key × Value)) : OrderedMap Key Value :=
  empty.insertAll entries

def Agrees (left right : OrderedMap Key Value) : Prop :=
  ∀ key, left.get? key = right.get? key

theorem find?_eq_some_iff {entries : List (Key × Value)}
    (distinct : (entries.map Prod.fst).Nodup) {key : Key} {value : Value} :
    find? key entries = some value ↔ (key, value) ∈ entries := by
  induction entries with
  | nil => simp [find?]
  | cons entry rest inductionHypothesis =>
      rcases entry with ⟨other, old⟩
      simp only [List.map_cons, List.nodup_cons] at distinct
      by_cases same : other = key
      · subst same
        have absent : (other, value) ∉ rest := fun membership =>
          distinct.1 (List.mem_map.mpr ⟨_, membership, rfl⟩)
        simp [find?, absent, eq_comm]
      · simp [find?, same, Ne.symm same, inductionHypothesis distinct.2]

theorem get?_eq_some_iff (map : OrderedMap Key Value) {key : Key} {value : Value} :
    map.get? key = some value ↔ (key, value) ∈ map.entries :=
  find?_eq_some_iff map.keys_nodup

def agrees [DecidableEq Value] (left right : OrderedMap Key Value) : Bool :=
  left.entries.all (fun entry => right.get? entry.1 == some entry.2) &&
    right.entries.all (fun entry => left.get? entry.1 == some entry.2)

theorem agrees_iff [DecidableEq Value] {left right : OrderedMap Key Value} :
    left.agrees right = true ↔ left.Agrees right := by
  simp only [agrees, Bool.and_eq_true, List.all_eq_true, beq_iff_eq, Prod.forall]
  constructor
  · rintro ⟨leftInRight, rightInLeft⟩ key
    cases found : left.get? key with
    | some value => exact (leftInRight key value ((left.get?_eq_some_iff).mp found)).symm
    | none =>
        cases other : right.get? key with
        | none => rfl
        | some value =>
            rw [rightInLeft key value ((right.get?_eq_some_iff).mp other)] at found
            contradiction
  · intro same
    exact ⟨fun key value membership => (same key) ▸ (left.get?_eq_some_iff).mpr membership,
      fun key value membership => (same key).symm ▸ (right.get?_eq_some_iff).mpr membership⟩

end OrderedMap

end Acceptor
