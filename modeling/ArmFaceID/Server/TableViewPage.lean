import ArmFaceID.Server.FaceDatabase
import Mathlib.Data.List.Dedup
import Mathlib.Data.List.Sort

/-!
# The table page

The refresh and delete handlers of `server/gui/tableview_page.cpp`. The model of the page holds the
rows it last selected. Its edit strategy submits a removal at once and keeps a blank row (`none`) in
place until the next `select()`. Every SQL statement here succeeds. Edits of single cells, to which
the view is open as well, are left out.
-/

set_option autoImplicit false

namespace ArmFaceID.Server

/-- The rows `table_model_` shows; `none` is a blank row. -/
abbrev TableModel := List (Option UserRow)

/-- `table_model_->select()`. -/
def select (table : TbUser) : TableModel := table.rows.map some

/-- `table_model_->removeRow(row)`: the row with that key leaves the table, its place goes blank. -/
def removeRow (state : TableModel × TbUser) (row : Nat) : TableModel × TbUser :=
  match state.1[row]? with
  | some (some r) => (state.1.set row none, state.2.delete r.userId)
  -- a blank row, or none at all: `removeRow` fails
  | _ => state

/-- The rows of the selected cells (row, column), each once, the last row first. -/
def sortedRows (selectedIndexes : List (Nat × Nat)) : List Nat :=
  ((selectedIndexes.map Prod.fst).dedup).insertionSort (· ≥ ·)

/-- The delete handler. Nothing is left for `submitAll()` to submit. -/
def deleteSelected (selectedIndexes : List (Nat × Nat)) (state : TableModel × TbUser) :
    TableModel × TbUser :=
  let (_, table) := (sortedRows selectedIndexes).foldl removeRow state
  (select table, table)

theorem mem_sortedRows {selectedIndexes : List (Nat × Nat)} {row : Nat} :
    row ∈ sortedRows selectedIndexes ↔ ∃ cell ∈ selectedIndexes, cell.1 = row := by
  rw [sortedRows, List.mem_insertionSort, List.mem_dedup, List.mem_map]

/-- The model shows a row with key `id` at one of the places `rows`. -/
def ShownAt (model : TableModel) (rows : List Nat) (id : Int) : Prop :=
  ∃ row ∈ rows, ∃ r, model[row]? = some (some r) ∧ r.userId = id

/-- Blanking one place takes its own row out of sight and no other. -/
theorem shownAt_set {model : TableModel} {row : Nat} {rows : List Nat} {id : Int} :
    ShownAt (model.set row none) rows id ∨ (∃ r, model[row]? = some (some r) ∧ r.userId = id) ↔
      ShownAt model (row :: rows) id := by
  constructor
  · rintro (⟨i, hi, r, hr, hid⟩ | ⟨r, hr, hid⟩)
    · refine ⟨i, List.mem_cons_of_mem _ hi, r, ?_, hid⟩
      rw [List.getElem?_set] at hr
      split at hr
      · split at hr <;> simp at hr
      · exact hr
    · exact ⟨row, List.mem_cons_self, r, hr, hid⟩
  · rintro ⟨i, hi, r, hr, hid⟩
    by_cases hrow : row = i
    · subst hrow
      exact Or.inr ⟨r, hr, hid⟩
    · have hi' : i ∈ rows := (List.mem_cons.1 hi).resolve_left (Ne.symm hrow)
      refine Or.inl ⟨i, hi', r, ?_, hid⟩
      rwa [List.getElem?_set_ne hrow]

/-- Removing rows one after another leaves the rows of the table that the model does not show at the
places removed. -/
theorem mem_foldl_removeRow (rows : List Nat) (model : TableModel) (table : TbUser)
    (x : UserRow) :
    x ∈ (rows.foldl removeRow (model, table)).2.rows ↔
      x ∈ table.rows ∧ ¬ ShownAt model rows x.userId := by
  induction rows generalizing model table with
  | nil => simp [ShownAt]
  | cons row rows ih =>
      rw [List.foldl_cons, ← shownAt_set]
      cases hrow : model[row]? with
      | none =>
          have hstep : removeRow (model, table) row = (model, table) := by simp [removeRow, hrow]
          have hset : model.set row none = model :=
            List.set_eq_of_length_le (List.getElem?_eq_none_iff.1 hrow)
          rw [hstep, ih, hset]
          simp
      | some cell =>
          cases cell with
          | none =>
              have hstep : removeRow (model, table) row = (model, table) := by
                simp [removeRow, hrow]
              have hset : model.set row none = model := by
                apply List.ext_getElem?
                intro i
                rw [List.getElem?_set]
                split
                · next h => subst h; split <;> simp_all
                · rfl
              rw [hstep, ih, hset]
              simp
          | some r =>
              have hstep : removeRow (model, table) row =
                  (model.set row none, table.delete r.userId) := by simp [removeRow, hrow]
              rw [hstep, ih]
              simp only [TbUser.delete_rows, List.mem_filter, decide_eq_true_eq,
                Option.some.injEq, not_or]
              constructor
              · rintro ⟨⟨hx, hne⟩, hns⟩
                refine ⟨hx, hns, ?_⟩
                rintro ⟨r', rfl, heq⟩
                exact hne heq.symm
              · rintro ⟨hx, hns, hne⟩
                exact ⟨⟨hx, fun heq => hne ⟨r, rfl, heq.symm⟩⟩, hns⟩

end ArmFaceID.Server
