import ArmFaceID.Library.IndexRemoval
import ArmFaceID.Server.TableViewPage

/-!
# Deleting the selected rows

The delete handler of `server/gui/tableview_page.cpp` removes rows by positions taken before the
first removal. It sorts them in descending order, each once, so they keep their meaning while the
table shrinks: the handler deletes the rows with a selected cell and no others
(`deleteSelected_exact`), whether `removeRow` moves the later rows up or leaves a blank.
-/

set_option autoImplicit false

namespace ArmFaceID.Server

open ArmFaceID.Library

/-- `table_model_->removeRow(row)` of a model that shows the table without the row at once. -/
def removeRowAtOnce (state : TableModel × TbUser) (row : Nat) : TableModel × TbUser :=
  match state.1[row]? with
  | some (some r) => (state.1.eraseIdx row, state.2.delete r.userId)
  | _ => state

/-- The delete handler over such a model. -/
def deleteSelectedAtOnce (selectedIndexes : List (Nat × Nat)) (state : TableModel × TbUser) :
    TableModel × TbUser :=
  let (_, table) := (sortedRows selectedIndexes).foldl removeRowAtOnce state
  (select table, table)

/-- The rows without a selected cell, in their order. -/
def unselectedRows (selectedIndexes : List (Nat × Nat)) (rows : List UserRow) : List UserRow :=
  others (selectedIndexes.map Prod.fst) rows

/-! ## The positions -/

/-- Each position once, the last first. -/
theorem sortedRows_descending (selectedIndexes : List (Nat × Nat)) :
    (sortedRows selectedIndexes).Pairwise (· > ·) := by
  have hsorted : (sortedRows selectedIndexes).Pairwise (· ≥ ·) := List.pairwise_insertionSort _ _
  have hnodup : (sortedRows selectedIndexes).Nodup :=
    (List.perm_insertionSort _ _).nodup_iff.2 (List.nodup_dedup _)
  refine (hsorted.and hnodup).imp ?_
  rintro i j ⟨hge, hne⟩
  omega

theorem others_sortedRows (selectedIndexes : List (Nat × Nat)) (rows : List UserRow) :
    others (sortedRows selectedIndexes) rows = unselectedRows selectedIndexes rows := by
  apply othersFrom_congr
  intro i _ _
  rw [mem_sortedRows, List.mem_map]

/-! ## One removal -/

/-- Deleting by key takes out one row, since keys are distinct. -/
theorem filter_userId_split {a b : List UserRow} {r : UserRow}
    (h : ((a ++ r :: b).map UserRow.userId).Nodup) :
    (a ++ r :: b).filter (fun row => decide (row.userId ≠ r.userId)) = a ++ b := by
  rw [List.map_append, List.map_cons, List.nodup_append] at h
  obtain ⟨-, hrb, hab⟩ := h
  have hnotb := (List.nodup_cons.1 hrb).1
  have ha : a.filter (fun row => decide (row.userId ≠ r.userId)) = a := by
    apply List.filter_eq_self.2
    intro row hrow
    have hne := hab row.userId (List.mem_map_of_mem hrow) r.userId List.mem_cons_self
    exact decide_eq_true hne
  have hb : b.filter (fun row => decide (row.userId ≠ r.userId)) = b := by
    apply List.filter_eq_self.2
    intro row hrow
    apply decide_eq_true
    intro heq
    exact hnotb (heq ▸ List.mem_map_of_mem hrow)
  rw [List.filter_append, List.filter_cons, ha, hb]
  simp

theorem split_at {α : Type} {l : List α} {i : Nat} {x : α} (h : l[i]? = some x) :
    l = l.take i ++ x :: l.drop (i + 1) ∧ (l.take i).length = i := by
  obtain ⟨hlt, rfl⟩ := List.getElem?_eq_some_iff.1 h
  refine ⟨?_, List.length_take_of_le (Nat.le_of_lt hlt)⟩
  rw [List.getElem_cons_drop, List.take_append_drop]

theorem delete_rows_eq_eraseIdx {table : TbUser} {row : Nat} {r : UserRow}
    (h : table.rows[row]? = some r) : (table.delete r.userId).rows = table.rows.eraseIdx row := by
  obtain ⟨hsplit, -⟩ := split_at h
  have hnodup := table.nodup
  rw [hsplit] at hnodup
  rw [TbUser.delete_rows, List.eraseIdx_eq_take_drop_succ]
  conv_lhs => rw [hsplit]
  exact filter_userId_split hnodup

/-- A removal at once keeps the model in step with the table. -/
theorem removeRowAtOnce_select (table : TbUser) (row : Nat) :
    ∃ table', removeRowAtOnce (select table, table) row = (select table', table') ∧
      table'.rows = table.rows.eraseIdx row := by
  cases h : table.rows[row]? with
  | none =>
      have hmodel : (select table)[row]? = none := by
        rw [select, List.getElem?_map, h]
        rfl
      refine ⟨table, by simp only [removeRowAtOnce, hmodel], ?_⟩
      exact (List.eraseIdx_of_length_le (List.getElem?_eq_none_iff.1 h)).symm
  | some r =>
      have hmodel : (select table)[row]? = some (some r) := by
        rw [select, List.getElem?_map, h]
        rfl
      have hselect : (select table).eraseIdx row = select (table.delete r.userId) := by
        rw [select, select, delete_rows_eq_eraseIdx h, List.eraseIdx_eq_take_drop_succ,
          List.eraseIdx_eq_take_drop_succ, List.map_append, List.map_take, List.map_drop]
      refine ⟨table.delete r.userId, ?_, delete_rows_eq_eraseIdx h⟩
      simp only [removeRowAtOnce, hmodel, hselect]

/-- A removal that leaves a blank: the model without its blanks is in step with the table. -/
theorem removeRow_reduceOption {model : TableModel} {table : TbUser}
    (h : model.reduceOption = table.rows) (row : Nat) :
    ∃ table', removeRow (model, table) row = (model.set row none, table') ∧
      (model.set row none).reduceOption = table'.rows := by
  cases hrow : model[row]? with
  | none =>
      have hset : model.set row none = model :=
        List.set_eq_of_length_le (List.getElem?_eq_none_iff.1 hrow)
      rw [hset]
      exact ⟨table, by simp only [removeRow, hrow], h⟩
  | some cell =>
      obtain ⟨hsplit, hlen⟩ := split_at hrow
      have hset : model.set row none = model.take row ++ none :: model.drop (row + 1) := by
        conv_lhs => rw [hsplit]
        rw [List.set_append_right _ _ (Nat.le_of_eq hlen), hlen, Nat.sub_self, List.set_cons_zero]
      cases cell with
      | none =>
          rw [← hsplit] at hset
          rw [hset]
          exact ⟨table, by simp only [removeRow, hrow], h⟩
      | some r =>
          refine ⟨table.delete r.userId, by simp only [removeRow, hrow], ?_⟩
          have hrows : table.rows =
              (model.take row).reduceOption ++ r :: (model.drop (row + 1)).reduceOption := by
            rw [← h]
            conv_lhs => rw [hsplit]
            rw [List.reduceOption_append, List.reduceOption_cons_of_some]
          have hnodup := table.nodup
          rw [hrows] at hnodup
          rw [hset, List.reduceOption_append, List.reduceOption_cons_of_none, TbUser.delete_rows,
            hrows, filter_userId_split hnodup]

/-! ## The handler -/

theorem foldl_removeRowAtOnce (rows : List Nat) (table : TbUser) :
    (rows.foldl removeRowAtOnce (select table, table)).2.rows =
      rows.foldl List.eraseIdx table.rows := by
  induction rows generalizing table with
  | nil => rfl
  | cons row rows ih =>
      obtain ⟨table', hstep, hrows⟩ := removeRowAtOnce_select table row
      rw [List.foldl_cons, List.foldl_cons, hstep, ih, hrows]

theorem foldl_removeRow (rows : List Nat) {model : TableModel} {table : TbUser}
    (h : model.reduceOption = table.rows) : (rows.foldl removeRow (model, table)).2.rows =
      (rows.foldl (fun l row => l.set row none) model).reduceOption := by
  induction rows generalizing model table with
  | nil => exact h.symm
  | cons row rows ih =>
      obtain ⟨table', hstep, hrows⟩ := removeRow_reduceOption h row
      rw [List.foldl_cons, List.foldl_cons, hstep, ih hrows]

/-- Deleting a selection leaves the rows without a selected cell, in their order, and shows them:
with blanks until the next `select()`, and with removals at once. -/
theorem deleteSelected_exact (selectedIndexes : List (Nat × Nat)) (table : TbUser) :
    (∃ left, deleteSelected selectedIndexes (select table, table) = (select left, left) ∧
      left.rows = unselectedRows selectedIndexes table.rows) ∧
    (∃ left, deleteSelectedAtOnce selectedIndexes (select table, table) = (select left, left) ∧
      left.rows = unselectedRows selectedIndexes table.rows) := by
  refine ⟨⟨_, rfl, ?_⟩, ⟨_, rfl, ?_⟩⟩
  · have hselect : (select table).reduceOption = table.rows := by
      have hnone := reduceOption_foldl_set [] table.rows
      rw [List.foldl_nil] at hnone
      exact hnone.trans (othersFrom_of_lt (fun _ hi => absurd hi List.not_mem_nil) _)
    rw [foldl_removeRow _ hselect, select, reduceOption_foldl_set, others_sortedRows]
  · rw [foldl_removeRowAtOnce, foldl_eraseIdx (sortedRows_descending selectedIndexes),
      others_sortedRows]

end ArmFaceID.Server
