import DetachedTasks.Proofs.HandleRoundTrip
import DetachedTasks.Task.Launch

/-!
# Scripts read back

A script is written as two lines, and reading the document gives the same script, character
for character, whatever it holds.
-/

namespace DetachedTasks

namespace TaskScript

open Toml

/-- The fields of a script with what they hold. -/
def record (script : TaskScript) : Record where
  fields :=
    [("script".toList, .text script.body), ("capturing_output".toList, .flag script.capturing)]
  bare := Reader.isBare_of_mem (by decide : fields.all _ = true)
  distinct := (by decide : fields.Nodup)

/-- A script is written as the record of its fields. -/
theorem toToml_eq (script : TaskScript) :
    script.toToml = script.record.text := by
  simp [toToml, record, Record.text, linesOf, Content.written]

/-- The fields of a script in the order of their keys. -/
theorem sortPairs_fields (body capturing : Value) :
    sortPairs [("script".toList, body), ("capturing_output".toList, capturing)] =
      [("capturing_output".toList, capturing), ("script".toList, body)] := rfl

/-- The two pairs of a script are read as the script. -/
theorem ofValue_table (script : TaskScript) :
    ofValue script.record.table = .ok script := by
  have first : readField (none, false) "capturing_output".toList (.boolean script.capturing) =
      .ok (none, script.capturing) := by
    have differs : "capturing_output".toList ≠ "script".toList := by decide
    rw [readField, if_neg differs, if_pos rfl]
    rfl
  have second : readField (none, script.capturing) "script".toList (.string script.body) =
      .ok (some script.body, script.capturing) := by
    rw [readField, if_pos rfl]
    rfl
  show ofValue (.table
    [("script".toList, .string script.body),
      ("capturing_output".toList, .boolean script.capturing)]) = .ok script
  rw [ofValue, Value.readRecord, sortPairs_fields, List.foldlM_cons, first, Handle.ok_bind,
    List.foldlM_cons, second, Handle.ok_bind, List.foldlM_nil]
  rfl

/-- A script that was written is read back. -/
theorem ofToml_toToml (script : TaskScript) :
    ofToml script.toToml = .ok script := by
  rw [ofToml, toToml_eq, script.record.read?_text]
  simp only [ofValue_table]
  rfl

end TaskScript

/-- Handles and scripts are written as one line for each of their fields, and the lines are
read back as the same fields and as the same handle or script. -/
theorem Toml.records_survive :
    (∀ handle : Handle,
      handle.toToml = handle.record.text ∧
        Toml.read? handle.toToml = some handle.record.table ∧
        Handle.ofToml handle.toToml = .ok handle) ∧
      ∀ script : TaskScript,
        script.toToml = script.record.text ∧
          Toml.read? script.toToml = some script.record.table ∧
          TaskScript.ofToml script.toToml = .ok script := by
  constructor
  · intro handle
    exact ⟨handle.toToml_eq, handle.read?_toToml, handle.ofToml_toToml⟩
  · intro script
    have written := script.toToml_eq
    refine ⟨written, ?_, script.ofToml_toToml⟩
    rw [written]
    exact script.record.read?_text

end DetachedTasks
