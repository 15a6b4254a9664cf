import DetachedTasks.Proofs.WrittenRecords
import DetachedTasks.Task.Handle

/-!
# Handles read back

A handle is written as three lines, one for each field, and reading the document gives the
same handle, whatever its id holds.
-/

namespace DetachedTasks

namespace Handle

open Toml

theorem isBare_of_mem_fields : ∀ key ∈ fields, Reader.IsBare key :=
  Reader.isBare_of_mem (by decide)

/-- The fields of a handle with what they hold. -/
def record (handle : Handle) : Record where
  fields :=
    [("id".toList, .text handle.id), ("capturing_output".toList, .flag handle.capturing),
      ("log_offset".toList, .word handle.logOffset)]
  bare := isBare_of_mem_fields
  distinct := (by decide : fields.Nodup)

/-- A handle is written as the record of its fields. -/
theorem toToml_eq (handle : Handle) :
    handle.toToml = handle.record.text := by
  simp [toToml, record, Record.text, linesOf, Content.written]

/-- The document of a handle is a table with three pairs. -/
theorem read?_toToml (handle : Handle) :
    Toml.read? handle.toToml =
      some (.table
        [("id".toList, .string handle.id),
          ("capturing_output".toList, .boolean handle.capturing),
          ("log_offset".toList, .integer handle.logOffset.toNat)]) := by
  rw [toToml_eq]
  exact handle.record.read?_text

theorem ok_bind
    (value : α)
    (next : α → Except Misfit β) :
    (Except.ok value >>= next) = next value := rfl

/-- An offset is read back from its number. -/
theorem readWord_toNat (number : UInt64) :
    (Value.integer number.toNat).readWord = .ok number := by
  have inWord : (number.toNat : Int) < Value.wordBound := by
    have bound := number.toNat_lt
    rw [Value.wordBound]
    omega
  have fits : (0 ≤ (number.toNat : Int) && (number.toNat : Int) < Value.wordBound) = true := by
    simp only [Bool.and_eq_true, decide_eq_true_eq]
    exact ⟨Int.natCast_nonneg _, inWord⟩
  rw [Value.readWord, if_pos fits, Int.toNat_natCast]
  exact congrArg Except.ok (UInt64.ofNat_toNat)

/-- The fields of a handle in the order of their keys. -/
theorem sortPairs_fields
    (id capturing offset : Value) :
    sortPairs
        [("id".toList, id), ("capturing_output".toList, capturing),
          ("log_offset".toList, offset)] =
      [("capturing_output".toList, capturing), ("id".toList, id),
        ("log_offset".toList, offset)] := rfl

/-- The three pairs of a handle are read as the handle. -/
theorem ofValue_fields (handle : Handle) :
    ofValue (.table
      [("id".toList, .string handle.id),
        ("capturing_output".toList, .boolean handle.capturing),
        ("log_offset".toList, .integer handle.logOffset.toNat)]) = .ok handle := by
  have first : readField ⟨none, false, 0⟩ "capturing_output".toList
      (.boolean handle.capturing) = .ok ⟨none, handle.capturing, 0⟩ := by
    have differs : "capturing_output".toList ≠ "id".toList := by decide
    rw [readField, if_neg differs, if_pos rfl]
    rfl
  have second : readField ⟨none, handle.capturing, 0⟩ "id".toList
      (.string handle.id) = .ok ⟨some handle.id, handle.capturing, 0⟩ := by
    rw [readField, if_pos rfl]
    rfl
  have third : readField ⟨some handle.id, handle.capturing, 0⟩ "log_offset".toList
      (.integer handle.logOffset.toNat) =
        .ok ⟨some handle.id, handle.capturing, handle.logOffset⟩ := by
    have differs :
        "log_offset".toList ≠ "id".toList ∧
          "log_offset".toList ≠ "capturing_output".toList := by decide
    rw [readField, if_neg differs.1, if_neg differs.2, if_pos rfl, readWord_toNat]
    rfl
  rw [ofValue, Value.readRecord, sortPairs_fields, List.foldlM_cons, first, ok_bind,
    List.foldlM_cons, second, ok_bind, List.foldlM_cons, third, ok_bind, List.foldlM_nil]
  rfl

/-- A handle that was written is read back. -/
theorem ofToml_toToml (handle : Handle) :
    ofToml handle.toToml = .ok handle := by
  rw [ofToml, read?_toToml]
  simp only [ofValue_fields]
  rfl

end Handle

end DetachedTasks
