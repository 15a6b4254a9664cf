import DetachedTasks.Toml.Reader
import Mathlib.Data.List.Nodup

/-!
# No key is defined twice

The tree of a document refuses a second definition of a key wherever it would put it.  So no
table that a document denotes has two pairs with one key, however deep the table lies and
whether it was written under a header, with dotted keys or in braces.
-/

namespace DetachedTasks.Toml

/-- A value that has no values in it. -/
def Value.isScalar : Value → Bool
  | .array _ | .table _ => false
  | _ => true

/-- No table in a value has a key twice. -/
inductive Value.IsDistinct : Value → Prop where
  | scalar
      {value : Value}
      (isScalar : value.isScalar = true) :
      IsDistinct value
  | array
      {items : List Value}
      (each : ∀ item ∈ items, IsDistinct item) :
      IsDistinct (.array items)
  | table
      {pairs : List (Text × Value)}
      (once : (pairs.map (·.1)).Nodup)
      (each : ∀ pair ∈ pairs, IsDistinct pair.2) :
      IsDistinct (.table pairs)

/-- A table has distinct keys if its own are distinct and every value in it has distinct keys. -/
theorem Value.isDistinct_table
    {pairs : List (Text × Value)} :
    (Value.table pairs).IsDistinct ↔
      (pairs.map (·.1)).Nodup ∧ ∀ pair ∈ pairs, pair.2.IsDistinct := by
  constructor
  · intro distinct
    cases distinct with
    | scalar isScalar => cases isScalar
    | table once each => exact ⟨once, each⟩
  · rintro ⟨once, each⟩
    exact .table once each

/-- The key of one pair of a table stands nowhere else in it. -/
theorem Value.IsDistinct.once
    {entry : Text × Value}
    {front back : List (Text × Value)}
    (distinct : (Value.table (front ++ entry :: back)).IsDistinct) :
    ∀ pair ∈ front ++ back, pair.1 ≠ entry.1 := by
  obtain ⟨once, -⟩ := Value.isDistinct_table.mp distinct
  rw [List.map_append, List.map_cons, List.nodup_middle, ← List.map_append] at once
  intro pair member same
  exact (List.nodup_cons.mp once).1 (List.mem_map.mpr ⟨pair, member, same⟩)

/-- A table without one of its pairs has no key twice either. -/
theorem Value.IsDistinct.omit
    {entry : Text × Value}
    {front back : List (Text × Value)}
    (distinct : (Value.table (front ++ entry :: back)).IsDistinct) :
    (Value.table (front ++ back)).IsDistinct := by
  have shorter : (front ++ back).Sublist (front ++ entry :: back) :=
    (List.sublist_cons_self entry back).append_left front
  obtain ⟨once, each⟩ := Value.isDistinct_table.mp distinct
  exact .table (once.sublist (shorter.map _)) fun pair member =>
    each pair (shorter.subset member)

/-- A value may be replaced by one in which no key stands twice either. -/
theorem Value.IsDistinct.replace
    {key : Text}
    {value other : Value}
    {front back : List (Text × Value)}
    (distinct : (Value.table (front ++ (key, value) :: back)).IsDistinct)
    (otherDistinct : other.IsDistinct) :
    (Value.table (front ++ (key, other) :: back)).IsDistinct := by
  obtain ⟨once, each⟩ := Value.isDistinct_table.mp distinct
  rw [List.map_append, List.map_cons] at once
  refine .table (by rw [List.map_append, List.map_cons]; exact once) fun pair member => ?_
  rcases List.mem_append.mp member with isBefore | isLater
  · exact each pair (List.mem_append_left _ isBefore)
  rcases List.mem_cons.mp isLater with rfl | isAfter
  · exact otherDistinct
  · exact each pair (List.mem_append_right _ (List.mem_cons_of_mem _ isAfter))

/-- No table in a node has a key twice. -/
inductive Node.IsDistinct : Node → Prop where
  | closed
      {value : Value}
      (distinct : value.IsDistinct) :
      IsDistinct (.closed value)
  | table
      {origin : TableOrigin}
      {pairs : List (Text × Node)}
      (once : (pairs.map (·.1)).Nodup)
      (each : ∀ pair ∈ pairs, IsDistinct pair.2) :
      IsDistinct (.table origin pairs)
  | tables
      {items : List Node}
      (each : ∀ item ∈ items, IsDistinct item) :
      IsDistinct (.tables items)

/-! ### Growing a tree -/

namespace Node

variable {origin own : TableOrigin} {key : Text} {pairs : List (Text × Node)}
variable {node next : Node} {change : Node → Option Node}

/-- What is found under a key is one of the pairs. -/
theorem mem_of_find?_eq_some (found : find? pairs key = some node) :
    (key, node) ∈ pairs := by
  obtain ⟨pair, isFirst, rfl⟩ := Option.map_eq_some_iff.mp found
  have isKey := List.find?_some isFirst
  rw [decide_eq_true_eq] at isKey
  exact isKey ▸ List.mem_of_find?_eq_some isFirst

/-- A replacement brings in one pair and leaves the rest of them as they were. -/
theorem mem_replace
    {pair : Text × Node}
    (member : pair ∈ replace key node pairs) :
    pair = (key, node) ∨ pair ∈ pairs := by
  induction pairs with
  | nil => exact .inl (List.mem_singleton.mp member)
  | cons head rest inductionHypothesis =>
      rw [replace] at member
      split at member
      · exact (List.mem_cons.mp member).imp_right (List.mem_cons_of_mem _)
      · rcases List.mem_cons.mp member with isHead | isLater
        · exact .inr (List.mem_cons.mpr (.inl isHead))
        · exact (inductionHypothesis isLater).imp_right (List.mem_cons_of_mem _)

/-- A key is replaced where it stands, so a replacement does not make it stand twice. -/
theorem nodup_replace
    (once : (pairs.map (·.1)).Nodup)
    (key : Text)
    (node : Node) :
    ((replace key node pairs).map (·.1)).Nodup := by
  induction pairs with
  | nil => exact List.nodup_singleton key
  | cons head rest inductionHypothesis =>
      obtain ⟨absent, restOnce⟩ := List.nodup_cons.mp once
      rw [replace]
      by_cases isKey : head.1 = key
      · rw [if_pos isKey, ← isKey]
        exact once
      · rw [if_neg isKey]
        refine List.nodup_cons.mpr ⟨?_, inductionHypothesis restOnce⟩
        intro again
        obtain ⟨pair, member, same⟩ := List.mem_map.mp again
        rcases mem_replace member with rfl | isLater
        · exact isKey same.symm
        · exact absent (List.mem_map.mpr ⟨pair, isLater, same⟩)

/-- What is found in a tree with distinct keys has distinct keys itself. -/
theorem IsDistinct.find?
    (distinct : (Node.table own pairs).IsDistinct)
    (found : find? pairs key = some node) :
    node.IsDistinct := by
  cases distinct with
  | table once each => exact each _ (mem_of_find?_eq_some found)

/-- A node with distinct keys may stand in the place of any other. -/
theorem IsDistinct.replace
    (distinct : (Node.table own pairs).IsDistinct)
    (isDistinct : node.IsDistinct) :
    (Node.table own (replace key node pairs)).IsDistinct := by
  cases distinct with
  | table once each =>
      refine .table (nodup_replace once key node) fun pair member => ?_
      rcases mem_replace member with rfl | isOther
      · exact isDistinct
      · exact each pair isOther

theorem isDistinct_empty : (Node.table origin []).IsDistinct :=
  .table List.nodup_nil (List.forall_mem_nil _)

/-- A result is put into its place. -/
theorem IsDistinct.bind_replace
    (distinct : (Node.table own pairs).IsDistinct)
    {result : Option Node}
    (isDistinct : ∀ inner, result = some inner → inner.IsDistinct)
    (placed : (result.bind fun inner => some (.table own (Node.replace key inner pairs))) =
      some next) :
    next.IsDistinct := by
  obtain ⟨inner, found, same⟩ := Option.bind_eq_some_iff.mp placed
  cases same
  exact distinct.replace (isDistinct inner found)

/-- The last of several tables is replaced. -/
theorem IsDistinct.replaceLast
    {items before : List Node}
    {last : Node}
    (distinct : (Node.tables items).IsDistinct)
    (reversed : items.reverse = last :: before)
    (isDistinct : last.IsDistinct → next.IsDistinct) :
    (Node.tables (before.reverse ++ [next])).IsDistinct := by
  have whole : items = before.reverse ++ [last] := by
    rw [← List.reverse_reverse items, reversed, List.reverse_cons]
  cases distinct with
  | tables each =>
      subst whole
      refine .tables fun item member => ?_
      rcases List.mem_append.mp member with isEarlier | isLast
      · exact each item (List.mem_append_left _ isEarlier)
      · rw [List.mem_singleton.mp isLast]
        exact isDistinct (each last (List.mem_append_right _ List.mem_cons_self))

/-- A change after which no table has a key twice if none had one before. -/
def Keeps (change : Node → Option Node) : Prop :=
  ∀ node next, node.IsDistinct → change node = some next → next.IsDistinct

/-- The table at the end of a path is changed in its place. -/
theorem keeps_alter
    (keeps : Keeps change)
    (path : List Text) :
    Keeps (alter origin change path) := by
  induction path with
  | nil => exact keeps
  | cons key path inductionHypothesis =>
      intro node next distinct altered
      cases node with
      | closed value => cases altered
      | tables items => cases altered
      | table own pairs =>
          rw [alter] at altered
          cases found : find? pairs key with
          | none =>
              rw [found] at altered
              exact distinct.bind_replace (inductionHypothesis _ · isDistinct_empty) altered
          | some child =>
              have childDistinct := distinct.find? found
              cases child with
              | closed value =>
                  rw [found] at altered
                  cases altered
              | table other inside =>
                  simp only [found] at altered
                  split at altered
                  · exact distinct.bind_replace (inductionHypothesis _ · childDistinct) altered
                  · cases altered
              | tables items =>
                  simp only [found] at altered
                  cases reversed : items.reverse with
                  | nil =>
                      rw [reversed] at altered
                      cases altered
                  | cons last before =>
                      rw [reversed] at altered
                      refine distinct.bind_replace (fun inner made => ?_) altered
                      obtain ⟨changed, isChanged, rfl⟩ := Option.map_eq_some_iff.mp made
                      exact childDistinct.replaceLast reversed
                        (inductionHypothesis _ _ · isChanged)

/-- A key that is there already is refused, so adding a pair keeps keys distinct. -/
theorem keeps_addPair
    {value : Value}
    (distinct : value.IsDistinct)
    (dotted : Bool)
    (key : Text) :
    Keeps (addPair dotted key value) := by
  intro node next isDistinct added
  cases node with
  | closed _ => cases added
  | tables _ => cases added
  | table origin pairs =>
      rw [addPair] at added
      split_ifs at added
      split at added
      · cases added
        exact isDistinct.replace (.closed distinct)
      · cases added

/-- Values under dotted keys, none of which has a table with a key twice. -/
def AreDistinct (entries : List (List Text × Value)) : Prop :=
  ∀ entry ∈ entries, entry.2.IsDistinct

theorem areDistinct_nil : AreDistinct [] :=
  List.forall_mem_nil _

/-- An entry is its value at the end of a dotted key, and every table on this way keeps its keys
distinct. -/
theorem keeps_addEntry
    {entry : List Text × Value}
    (distinct : entry.2.IsDistinct) :
    Keeps (addEntry · entry) := by
  intro node next isDistinct added
  dsimp only [addEntry] at added
  split at added
  · cases added
  · exact keeps_alter (keeps_addPair distinct _ _) _ node next isDistinct added

/-- Entries are added one by one, and the first one that is refused ends it. -/
theorem keeps_addEntries
    {entries : List (List Text × Value)}
    (distinct : AreDistinct entries) :
    Keeps (addEntries · entries) := by
  induction entries with
  | nil =>
      intro node next isDistinct added
      cases added
      exact isDistinct
  | cons entry entries inductionHypothesis =>
      intro node next isDistinct added
      obtain ⟨between, first, others⟩ :=
        Option.bind_eq_some_iff.mp (List.foldlM_cons.symm.trans added)
      have betweenDistinct :=
        keeps_addEntry (distinct entry List.mem_cons_self) node between isDistinct first
      exact inductionHypothesis (fun other member => distinct other (.tail _ member))
        between next betweenDistinct others

/-- To open a table by its header and to add its entries keeps keys distinct. -/
theorem keeps_openTable
    {entries : List (List Text × Value)}
    (distinct : AreDistinct entries)
    (key : Text) :
    Keeps (openTable key entries) := by
  intro node next isDistinct opened
  cases node with
  | closed _ => cases opened
  | tables _ => cases opened
  | table origin pairs =>
      rw [openTable] at opened
      have filledDistinct := keeps_addEntries distinct
      cases found : find? pairs key with
      | none =>
          rw [found] at opened
          exact isDistinct.bind_replace (filledDistinct _ · isDistinct_empty) opened
      | some child =>
          have childDistinct := isDistinct.find? found
          rw [found] at opened
          cases child with
          | closed _ => cases opened
          | tables _ => cases opened
          | table own inner =>
              cases own with
              | header => cases opened
              | dotted => cases opened
              | passed =>
                  cases childDistinct with
                  | table once each =>
                      exact isDistinct.bind_replace (filledDistinct _ · (.table once each)) opened

/-- One more table in an array of tables has its keys to itself. -/
theorem keeps_appendTable
    {entries : List (List Text × Value)}
    (distinct : AreDistinct entries)
    (key : Text) :
    Keeps (appendTable key entries) := by
  intro node next isDistinct appended
  cases node with
  | closed _ => cases appended
  | tables _ => cases appended
  | table origin pairs =>
      rw [appendTable] at appended
      have placed : ∀ items : List Node, (∀ item ∈ items, item.IsDistinct) →
          ((addEntries (.table .header []) entries).bind fun filled =>
            some (.table origin (replace key (.tables (items ++ [filled])) pairs))) =
              some next → next.IsDistinct := by
        intro items each added
        obtain ⟨filled, isFilled, same⟩ := Option.bind_eq_some_iff.mp added
        cases same
        refine isDistinct.replace (.tables fun item member => ?_)
        rcases List.mem_append.mp member with isEarlier | isNew
        · exact each item isEarlier
        · rw [List.mem_singleton.mp isNew]
          exact keeps_addEntries distinct _ filled isDistinct_empty isFilled
      cases found : find? pairs key with
      | none =>
          rw [found] at appended
          exact placed [] (List.forall_mem_nil _) appended
      | some child =>
          have childDistinct := isDistinct.find? found
          rw [found] at appended
          cases child with
          | closed _ => cases appended
          | table _ _ => cases appended
          | tables items =>
              cases childDistinct with
              | tables each => exact placed items each appended

/-- The values of a tree are taken pair by pair, with the keys left as they are. -/
theorem pairValues_eq_map (pairs : List (Text × Node)) :
    pairValues pairs = pairs.map fun pair => (pair.1, pair.2.value) := by
  induction pairs with
  | nil => rfl
  | cons pair pairs inductionHypothesis => rw [pairValues, inductionHypothesis]; rfl

theorem values_eq_map (items : List Node) :
    values items = items.map value := by
  induction items with
  | nil => rfl
  | cons item items inductionHypothesis => rw [values, inductionHypothesis]; rfl

/-- A finished tree denotes a value in which no table has a key twice. -/
theorem IsDistinct.value (distinct : node.IsDistinct) : node.value.IsDistinct := by
  induction distinct with
  | closed distinct => exact distinct
  | @table origin pairs once _ inductionHypothesis =>
      rw [Node.value, pairValues_eq_map]
      refine .table ?_ ?_
      · rw [List.map_map]
        exact once
      · intro pair member
        obtain ⟨source, isSource, rfl⟩ := List.mem_map.mp member
        exact inductionHypothesis source isSource
  | @tables items _ inductionHypothesis =>
      rw [Node.value, values_eq_map]
      refine .array fun item member => ?_
      obtain ⟨source, isSource, rfl⟩ := List.mem_map.mp member
      exact inductionHypothesis source isSource

end Node

/-! ### Documents -/

open Node (AreDistinct)

variable {value : Value}

/-- An inline table is built by the same additions as a document. -/
theorem isDistinct_of_inlineTable?_eq_some
    {entries : List (List Text × Value)}
    (distinct : AreDistinct entries)
    (made : inlineTable? entries = some value) :
    value.IsDistinct := by
  obtain ⟨node, added, rfl⟩ := Option.map_eq_some_iff.mp made
  exact (Node.keeps_addEntries distinct _ node Node.isDistinct_empty added).value

/-- Each part of a document, with its header and its entries, keeps keys distinct. -/
theorem keeps_addPart
    {part : Part}
    (distinct : AreDistinct part.entries) :
    Node.Keeps (addPart · part) := by
  intro node next isDistinct added
  dsimp only [addPart] at added
  split at added
  · exact Node.keeps_addEntries distinct node next isDistinct added
  · refine Node.keeps_alter ?_ _ node next isDistinct added
    split
    · exact Node.keeps_appendTable distinct _
    · exact Node.keeps_openTable distinct _

/-- A document whose entries hold values with distinct keys is one table with distinct keys. -/
theorem isDistinct_of_document?_eq_some
    {parts : List Part}
    (distinct : ∀ part ∈ parts, AreDistinct part.entries)
    (made : document? parts = some value) :
    value.IsDistinct := by
  obtain ⟨root, added, rfl⟩ := Option.map_eq_some_iff.mp made
  refine Node.IsDistinct.value ?_
  suffices grown : Node.Keeps fun node => parts.foldlM addPart node from
    grown _ root Node.isDistinct_empty added
  clear made added
  induction parts with
  | nil =>
      intro node next isDistinct added
      cases added
      exact isDistinct
  | cons part parts inductionHypothesis =>
      intro node next isDistinct added
      obtain ⟨between, first, others⟩ :=
        Option.bind_eq_some_iff.mp (List.foldlM_cons.symm.trans added)
      exact inductionHypothesis (fun other member => distinct other (.tail _ member))
        between next
        (keeps_addPart (distinct part List.mem_cons_self) node between isDistinct first) others

namespace Scalar

/-- Whatever reads as a whole number is a single value. -/
theorem isScalar_of_integer?_eq_some
    {text : Text}
    (read : integer? text = some value) :
    value.isScalar = true := by
  have isInteger : ∀ result : Option Nat,
      (result.map fun number => Value.integer number) = some value → value.isScalar = true := by
    intro result made
    obtain ⟨number, -, rfl⟩ := Option.map_eq_some_iff.mp made
    rfl
  rw [integer?.eq_def] at read
  split at read
  · exact isInteger _ read
  · exact isInteger _ read
  · exact isInteger _ read
  · simp only [Option.bind_eq_bind, Option.pure_def, Option.bind_eq_some_iff,
      Option.some.injEq] at read
    obtain ⟨digits, -, number, -, rfl⟩ := read
    rfl

theorem isScalar_of_assemble_eq_some
    {negative : Bool}
    {whole fraction : Text}
    {exponent : Int}
    (read : assemble negative whole fraction exponent = some value) :
    value.isScalar = true := by
  rw [assemble] at read
  obtain ⟨digits, -, made⟩ := Option.bind_eq_some_iff.mp read
  split at made
  · cases made; rfl
  · cases made; rfl

/-- Whatever reads as a fraction is a single value. -/
theorem isScalar_of_float?_eq_some
    {text : Text}
    (read : float? text = some value) :
    value.isScalar = true := by
  rw [float?] at read
  simp only [Option.bind_eq_bind, Option.pure_def] at read
  split_ifs at read
  · cases read; rfl
  · cases read; rfl
  -- With an exponent or without, what is assembled is assembled from parts alike.
  · split at read
    all_goals
      obtain ⟨exponent, -, read⟩ := Option.bind_eq_some_iff.mp read
      obtain ⟨whole, -, read⟩ := Option.bind_eq_some_iff.mp read
      split at read
      · split at read
        · cases read
        · exact isScalar_of_assemble_eq_some read
      · obtain ⟨fraction, -, read⟩ := Option.bind_eq_some_iff.mp read
        exact isScalar_of_assemble_eq_some read

/-- A value that is spelled by one word holds no other values. -/
theorem isScalar_of_value?_eq_some
    {text : Text}
    (read : value? text = some value) :
    value.isScalar = true := by
  rw [value?] at read
  split at read
  · cases read; rfl
  split at read
  · cases read; rfl
  rcases Option.or_eq_some_iff.mp read with isInteger | ⟨-, read⟩
  · exact isScalar_of_integer?_eq_some isInteger
  rcases Option.or_eq_some_iff.mp read with isFloat | ⟨-, isOther⟩
  · exact isScalar_of_float?_eq_some isFloat
  · split at isOther
    · cases isOther; rfl
    · cases isOther

end Scalar

namespace Reader

/-- With this much fuel nothing is read in which a table has a key twice. -/
structure ReadsDistinct (fuel : Nat) : Prop where
  ofValue : ∀ depth text value rest,
    value? fuel depth text = some (value, rest) → value.IsDistinct
  ofItems : ∀ depth text items rest,
    items? fuel depth text = some (items, rest) → ∀ item ∈ items, item.IsDistinct
  ofEntries : ∀ depth text entries rest,
    entries? fuel depth text = some (entries, rest) → AreDistinct entries

variable {fuel depth : Nat} {text rest : Text}

/-- A value is a word, an array or an inline table, and in each case its keys are distinct. -/
theorem ReadsDistinct.value_succ
    (reads : ReadsDistinct fuel)
    (read : value? (fuel + 1) depth text = some (value, rest)) :
    value.IsDistinct := by
  have ofString : ∀ result : Option (Text × Text),
      (result.map fun read => (Value.string read.1, read.2)) = some (value, rest) →
        value.IsDistinct := by
    intro result made
    obtain ⟨_, -, same⟩ := Option.map_eq_some_iff.mp made
    cases same
    exact .scalar rfl
  rw [value?.eq_def] at read
  dsimp only at read
  split at read
  · exact ofString _ read
  · exact ofString _ read
  · split at read
    · obtain ⟨⟨items, behind⟩, isItems, same⟩ := Option.bind_eq_some_iff.mp read
      cases same
      exact .array (reads.ofItems _ _ _ _ isItems)
    · cases read
  · split at read
    · obtain ⟨⟨entries, behind⟩, isEntries, read⟩ := Option.bind_eq_some_iff.mp read
      obtain ⟨table, isTable, same⟩ := Option.bind_eq_some_iff.mp read
      cases same
      exact isDistinct_of_inlineTable?_eq_some (reads.ofEntries _ _ _ _ isEntries) isTable
    · cases read
  · obtain ⟨scalar, isScalar, same⟩ := Option.map_eq_some_iff.mp read
    cases same
    exact .scalar (Scalar.isScalar_of_value?_eq_some isScalar)

/-- Every item of an array is a value, so its keys are distinct. -/
theorem ReadsDistinct.items_succ
    {items : List Value}
    (reads : ReadsDistinct fuel)
    (read : items? (fuel + 1) depth text = some (items, rest)) :
    ∀ item ∈ items, item.IsDistinct := by
  rw [items?.eq_def] at read
  dsimp only at read
  split at read
  · cases read
    exact List.forall_mem_nil _
  · obtain ⟨⟨item, behind⟩, isItem, read⟩ := Option.bind_eq_some_iff.mp read
    have first := reads.ofValue _ _ _ _ isItem
    dsimp only at read
    split at read
    · obtain ⟨⟨others, end'⟩, isOthers, same⟩ := Option.bind_eq_some_iff.mp read
      cases same
      exact List.forall_mem_cons.mpr ⟨first, reads.ofItems _ _ _ _ isOthers⟩
    · cases read
      exact List.forall_mem_singleton.mpr first
    · cases read

/-- Every entry of an inline table has a value, so its keys are distinct. -/
theorem ReadsDistinct.entries_succ
    {entries : List (List Text × Value)}
    (reads : ReadsDistinct fuel)
    (read : entries? (fuel + 1) depth text = some (entries, rest)) :
    AreDistinct entries := by
  rw [entries?.eq_def] at read
  dsimp only at read
  split at read
  · cases read
    exact Node.areDistinct_nil
  · obtain ⟨⟨path, behind⟩, -, read⟩ := Option.bind_eq_some_iff.mp read
    dsimp only at read
    split at read
    · obtain ⟨⟨value, behind⟩, isValue, read⟩ := Option.bind_eq_some_iff.mp read
      have first := reads.ofValue _ _ _ _ isValue
      dsimp only at read
      split at read
      · obtain ⟨⟨others, end'⟩, isOthers, same⟩ := Option.bind_eq_some_iff.mp read
        cases same
        exact List.forall_mem_cons.mpr ⟨first, reads.ofEntries _ _ _ _ isOthers⟩
      · cases read
        exact List.forall_mem_singleton.mpr first
      · cases read
    · cases read

/-- The three readers call one another with less fuel, so what they read is settled together. -/
theorem readsDistinct (fuel : Nat) : ReadsDistinct fuel := by
  induction fuel with
  | zero => constructor <;> intro depth text result rest read <;> cases read
  | succ fuel inductionHypothesis =>
      exact
        { ofValue := fun _ _ _ _ => inductionHypothesis.value_succ
          ofItems := fun _ _ _ _ => inductionHypothesis.items_succ
          ofEntries := fun _ _ _ _ => inductionHypothesis.entries_succ }

/-- A line of a document is read by the reader of values. -/
theorem isDistinct_of_entry?_eq_some
    {entry : List Text × Value}
    (read : entry? text = some (entry, rest)) :
    entry.2.IsDistinct := by
  obtain ⟨⟨path, behind⟩, -, read⟩ := Option.bind_eq_some_iff.mp read
  dsimp only at read
  split at read
  · obtain ⟨⟨value, behind⟩, isValue, read⟩ := Option.bind_eq_some_iff.mp read
    obtain ⟨_, -, same⟩ := Option.bind_eq_some_iff.mp read
    cases same
    exact (readsDistinct _).ofValue _ _ _ _ isValue
  · cases read

/-- All parts of a document have only such values in them, if what was read of the current
part has. -/
theorem areDistinct_of_parts?_eq_some
    {current : Part}
    {parts : List Part}
    (distinct : AreDistinct current.entries)
    (read : parts? fuel current text = some parts) :
    ∀ part ∈ parts, AreDistinct part.entries := by
  induction fuel generalizing current text parts with
  | zero => cases read
  | succ fuel inductionHypothesis =>
      have finished : AreDistinct current.entries.reverse :=
        fun entry member => distinct entry (List.mem_reverse.mp member)
      rw [parts?] at read
      dsimp only at read
      split at read
      · cases read
        exact List.forall_mem_singleton.mpr finished
      · obtain ⟨⟨⟨path, repeated⟩, behind⟩, -, read⟩ := Option.bind_eq_some_iff.mp read
        obtain ⟨others, isOthers, same⟩ := Option.bind_eq_some_iff.mp read
        cases same
        exact List.forall_mem_cons.mpr
          ⟨finished, inductionHypothesis Node.areDistinct_nil isOthers⟩
      · obtain ⟨⟨entry, behind⟩, isEntry, read⟩ := Option.bind_eq_some_iff.mp read
        have more : AreDistinct (entry :: current.entries) :=
          List.forall_mem_cons.mpr ⟨isDistinct_of_entry?_eq_some isEntry, distinct⟩
        exact inductionHypothesis more read

end Reader

/-- No table that a document denotes has a key twice. -/
theorem isDistinct_of_read?_eq_some
    {text : Text}
    (read : read? text = some value) :
    value.IsDistinct := by
  obtain ⟨parts, isParts, isValue⟩ := Option.bind_eq_some_iff.mp read
  exact isDistinct_of_document?_eq_some
    (Reader.areDistinct_of_parts?_eq_some Node.areDistinct_nil isParts) isValue

end DetachedTasks.Toml
