import DetachedTasks.Proofs.DistinctKeys
import DetachedTasks.Proofs.SortedPairs
import DetachedTasks.Toml.Misfit

/-!
# Records with pairs left out

A record is read pair by pair, and what is asked of it is a view.  A pair is neutral if
reading it shows nothing new as long as its field is untouched; then it may be left out of a
table that has its key only once, and so may the last of a list of values.
-/

namespace DetachedTasks

/-! ### Results -/

section Results

variable {ε δ α β γ : Type}

theorem exists_of_bind_ok
    {result : Except ε α}
    {change : α → β}
    {changed : β}
    (read : (result.bind fun value => .ok (change value)) = .ok changed) :
    ∃ value, change value = changed := by
  cases result with
  | error cause => cases read
  | ok value => exact ⟨value, Except.ok.inj read⟩

theorem map_mapError
    (result : Except ε α)
    (view : α → β)
    (wrap : ε → δ) :
    (result.mapError wrap).map view = (result.map view).mapError wrap := by
  cases result <;> rfl

/-- Results that look the same go on to results that look the same. -/
theorem map_bind_congr
    {view : α → β}
    {after : γ → δ}
    {next : α → Except ε γ}
    (agree : ∀ one other, view one = view other →
      (next one).map after = (next other).map after)
    {first second : Except ε α}
    (same : first.map view = second.map view) :
    (first.bind next).map after = (second.bind next).map after := by
  cases first with
  | error cause =>
      cases second with
      | error other => cases same; rfl
      | ok other => cases same
  | ok value =>
      cases second with
      | error cause => cases same
      | ok other => exact agree value other (Except.ok.inj same)

end Results

namespace Toml.Value

/-! ### Records read pair by pair -/

variable {α β : Type}

/-- Read pairs one after the other. -/
def readPairs
    (step : α → Text → Value → Except Misfit α)
    (pairs : List (Text × Value))
    (initial : α) : Except Misfit α :=
  pairs.foldlM (fun read pair => step read pair.1 pair.2) initial

/-- What a view shows after a step depends on nothing but what it showed before. -/
def Respects
    (view : α → β)
    (step : α → Text → Value → Except Misfit α) : Prop :=
  ∀ (first second : α) (name : Text) (value : Value), view first = view second →
    (step first name value).map view = (step second name value).map view

/-- As long as its field is untouched, reading this value under this key changes nothing that
the view shows; and no other key touches the field. -/
structure IsNeutral
    (view : α → β)
    (step : α → Text → Value → Except Misfit α)
    (key : Text)
    (value : Value)
    (untouched : α → Prop) : Prop where
  reads : ∀ record, untouched record →
    (step record key value).map view = .ok (view record)
  stays : ∀ record next name other, untouched record → name ≠ key →
    step record name other = .ok next → untouched next

variable {view : α → β} {step : α → Text → Value → Except Misfit α}
variable {key : Text} {value other : Value} {untouched : α → Prop} {initial : α}

theorem readPairs_cons
    (pair : Text × Value)
    (pairs : List (Text × Value))
    (initial : α) :
    readPairs step (pair :: pairs) initial =
      (step initial pair.1 pair.2).bind (readPairs step pairs) := by
  rw [readPairs, List.foldlM_cons]
  rfl

/-- Records that look the same are read on to records that look the same. -/
theorem Respects.readPairs
    (respects : Respects view step)
    (pairs : List (Text × Value))
    {first second : α}
    (same : view first = view second) :
    (readPairs step pairs first).map view = (readPairs step pairs second).map view := by
  induction pairs generalizing first second with
  | nil => exact congrArg Except.ok same
  | cons pair pairs inductionHypothesis =>
      rw [readPairs_cons, readPairs_cons]
      exact map_bind_congr (fun _ _ => inductionHypothesis)
        (respects first second pair.1 pair.2 same)

/-- A neutral pair may be left out of pairs that do not have its key before it. -/
theorem readPairs_omit
    (respects : Respects view step)
    (neutral : IsNeutral view step key value untouched)
    (isUntouched : untouched initial)
    {before : List (Text × Value)}
    (once : ∀ pair ∈ before, pair.1 ≠ key)
    (after : List (Text × Value)) :
    (readPairs step (before ++ (key, value) :: after) initial).map view =
      (readPairs step (before ++ after) initial).map view := by
  induction before generalizing initial with
  | nil =>
      rw [List.nil_append, List.nil_append, readPairs_cons]
      have unchanged : (step initial key value).map view = (Except.ok initial).map view :=
        neutral.reads initial isUntouched
      exact map_bind_congr (fun _ _ => respects.readPairs after) unchanged
  | cons pair before inductionHypothesis =>
      rw [List.cons_append, List.cons_append, readPairs_cons, readPairs_cons]
      cases read : step initial pair.1 pair.2 with
      | error cause => rfl
      | ok next =>
          exact inductionHypothesis
            (neutral.stays initial next pair.1 pair.2 isUntouched
              (once pair List.mem_cons_self) read)
            fun other member => once other (List.mem_cons_of_mem _ member)

/-- A value may be replaced by one that is read alike. -/
theorem readPairs_replace
    (respects : Respects view step)
    (alike : ∀ record,
      (step record key value).map view = (step record key other).map view)
    (before after : List (Text × Value)) :
    (readPairs step (before ++ (key, value) :: after) initial).map view =
      (readPairs step (before ++ (key, other) :: after) initial).map view := by
  induction before generalizing initial with
  | nil =>
      rw [List.nil_append, List.nil_append, readPairs_cons, readPairs_cons]
      exact map_bind_congr (fun _ _ => respects.readPairs after) (alike initial)
  | cons pair before inductionHypothesis =>
      rw [List.cons_append, List.cons_append, readPairs_cons, readPairs_cons]
      cases step initial pair.1 pair.2 with
      | error cause => rfl
      | ok next => exact inductionHypothesis

variable {kind : Text} {names : List Text}

theorem readRecord_table (pairs : List (Text × Value)) :
    readRecord kind names initial step (.table pairs) =
      readPairs step (sortPairs pairs) initial := rfl

/-- A record in which nothing is written is the one that the reading starts with. -/
theorem readRecord_of_isEmpty (isEmpty : value = .table [] ∨ value = .array []) :
    readRecord kind names initial step value = .ok initial := by
  rcases isEmpty with rfl | rfl
  · rfl
  · rw [readRecord, List.zip_nil_right]
    rfl

/-- A neutral pair may be left out of a table that has its key only once. -/
theorem readRecord_omit
    (respects : Respects view step)
    (neutral : IsNeutral view step key value untouched)
    (isUntouched : untouched initial)
    {front back : List (Text × Value)}
    (once : ∀ pair ∈ front ++ back, pair.1 ≠ key) :
    (readRecord kind names initial step (.table (front ++ (key, value) :: back))).map view =
      (readRecord kind names initial step (.table (front ++ back))).map view := by
  obtain ⟨before, after, whole, placed⟩ :=
    exists_sortPairs_append_cons key front back
  have absent : ∀ pair ∈ before, pair.1 ≠ key := by
    intro pair member
    have inSorted : pair ∈ sortPairs (front ++ back) := by
      rw [whole]
      exact List.mem_append_left _ member
    exact once pair (mem_sortPairs.mp inSorted)
  rw [readRecord_table, readRecord_table, placed value, whole]
  exact readPairs_omit respects neutral isUntouched absent after

/-- A value of a table may be replaced by one that is read alike. -/
theorem readRecord_replace
    (respects : Respects view step)
    (alike : ∀ record,
      (step record key value).map view = (step record key other).map view)
    (front back : List (Text × Value)) :
    (readRecord kind names initial step (.table (front ++ (key, value) :: back))).map view =
      (readRecord kind names initial step (.table (front ++ (key, other) :: back))).map
        view := by
  obtain ⟨before, after, _, placed⟩ :=
    exists_sortPairs_append_cons key front back
  rw [readRecord_table, readRecord_table, placed value, placed other]
  exact readPairs_replace respects alike before after

/-- The last item of a list of values may be left out if its field is neutral. -/
theorem readRecord_omit_last
    (respects : Respects view step)
    (neutral : IsNeutral view step key value untouched)
    (isUntouched : untouched initial)
    {earlier later : List Text}
    (once : key ∉ earlier)
    {items : List Value}
    (next : items.length = earlier.length) :
    (readRecord kind (earlier ++ key :: later) initial step (.array (items ++ [value]))).map
        view =
      (readRecord kind (earlier ++ key :: later) initial step (.array items)).map view := by
  have longer : (earlier ++ key :: later).zip (items ++ [value]) =
      earlier.zip items ++ (key, value) :: [] := by
    rw [List.zip_append next.symm, List.zip_cons_cons, List.zip_nil_right]
  have shorter : (earlier ++ key :: later).zip items = earlier.zip items ++ [] :=
    calc
      (earlier ++ key :: later).zip items = (earlier ++ key :: later).zip (items ++ []) := by
        rw [List.append_nil]
      _ = earlier.zip items ++ [] := by rw [List.zip_append next.symm, List.zip_nil_right]
  have absent : ∀ pair ∈ earlier.zip items, pair.1 ≠ key := by
    rintro pair member rfl
    exact once (List.of_mem_zip member).1
  have omitted := readPairs_omit respects neutral isUntouched absent []
  rw [← longer, ← shorter] at omitted
  exact omitted

/-! ### Records that are written at less length -/

/-- A record is written with one value less: a key that has its default value is left out, or
the last of a list of values if it is the default of its field. -/
inductive Shortens (defaults : List (Text × Value)) : Value → Value → Prop where
  | key
      {entry : Text × Value}
      {before after : List (Text × Value)}
      (isDefault : entry ∈ defaults) :
      Shortens defaults (.table (before ++ entry :: after)) (.table (before ++ after))
  | item
      {entry : Text × Value}
      {items : List Value}
      (isDefault : defaults[items.length]? = some entry) :
      Shortens defaults (.array (items ++ [entry.2])) (.array items)

/-- Nothing that is left out makes a key stand twice. -/
theorem Shortens.isDistinct
    {defaults : List (Text × Value)}
    {shorter : Value}
    (shortens : Shortens defaults value shorter)
    (distinct : value.IsDistinct) :
    shorter.IsDistinct := by
  cases shortens with
  | key _ => exact distinct.omit
  | item _ =>
      cases distinct with
      | scalar isScalar => cases isScalar
      | array each => exact .array fun item member => each item (List.mem_append_left _ member)

/-- A record that is written with one value less is read alike. -/
theorem Shortens.readRecord
    {defaults : List (Text × Value)}
    (respects : Respects view step)
    (neutral : ∀ entry ∈ defaults, ∃ untouched,
      IsNeutral view step entry.1 entry.2 untouched ∧ untouched initial)
    (once : (defaults.map (·.1)).Nodup)
    {shorter : Value}
    (shortens : Shortens defaults value shorter)
    (distinct : value.IsDistinct) :
    (readRecord kind (defaults.map (·.1)) initial step value).map view =
      (readRecord kind (defaults.map (·.1)) initial step shorter).map view := by
  cases shortens with
  | key isDefault =>
      obtain ⟨untouched, isNeutral, isUntouched⟩ := neutral _ isDefault
      exact readRecord_omit respects isNeutral isUntouched distinct.once
  | @item entry items isDefault =>
      obtain ⟨untouched, isNeutral, isUntouched⟩ :=
        neutral entry (List.mem_of_getElem? isDefault)
      obtain ⟨earlier, later, whole, size⟩ :
          ∃ earlier later, defaults = earlier ++ entry :: later ∧
            items.length = earlier.length := by
        obtain ⟨inside, isEntry⟩ := List.getElem?_eq_some_iff.mp isDefault
        refine ⟨defaults.take items.length, defaults.drop (items.length + 1), ?_, ?_⟩
        · rw [← isEntry, ← List.drop_eq_getElem_cons inside, List.take_append_drop]
        · rw [List.length_take, Nat.min_eq_left (Nat.le_of_lt inside)]
      have names : defaults.map (·.1) =
          earlier.map (·.1) ++ entry.1 :: later.map (·.1) := by
        rw [whole, List.map_append, List.map_cons]
      rw [names] at once ⊢
      have absent : entry.1 ∉ earlier.map (·.1) := fun member =>
        (List.nodup_append.mp once).2.2 _ member _ List.mem_cons_self rfl
      exact readRecord_omit_last respects isNeutral isUntouched absent
        (by rw [size, List.length_map])

end Toml.Value

end DetachedTasks
