import Mathlib.Data.List.Nodup
import Mathlib.Data.List.Basic

namespace Foundation

/-! Tables with a primary key.  A table is its rows in insertion order; that no
two rows share a key is part of the value. -/

/-- Rows with pairwise different keys. -/
structure Table {Row Key : Type} (key : Row → Key) where
  rows : List Row
  distinct : (rows.map key).Nodup

namespace Table

variable {Row Key : Type} {key : Row → Key}

@[ext] theorem ext {left right : Table key} (rows : left.rows = right.rows) :
    left = right := by
  cases left
  cases right
  cases rows
  rfl

instance [DecidableEq Row] : DecidableEq (Table key) := fun left right =>
  decidable_of_iff (left.rows = right.rows) ⟨ext, congrArg rows⟩

def empty : Table key := ⟨[], List.nodup_nil⟩

instance : Inhabited (Table key) := ⟨empty⟩

@[simp] theorem rows_empty : (empty : Table key).rows = [] := rfl

theorem eq_of_key_eq {table : Table key} {first second : Row}
    (firstMember : first ∈ table.rows) (secondMember : second ∈ table.rows)
    (same : key first = key second) : first = second :=
  List.inj_on_of_nodup_map table.distinct firstMember secondMember same

/-- UPDATE ... WHERE: `change` keeps the key of every row. -/
def updateWhere (table : Table key) (selected : Row → Bool)
    (change : Row → Row) (keeps : ∀ row, key (change row) = key row) :
    Table key where
  rows := table.rows.map fun row => if selected row then change row else row
  distinct := by
    have keys : (table.rows.map fun row =>
        if selected row then change row else row).map key =
          table.rows.map key := by
      rw [List.map_map]
      refine List.map_congr_left fun row _ => ?_
      simp only [Function.comp_apply]
      split
      · exact keeps row
      · rfl
    rw [keys]
    exact table.distinct

/-- DELETE ... WHERE. -/
def deleteWhere (table : Table key) (selected : Row → Bool) : Table key where
  rows := table.rows.filter fun row => !selected row
  distinct := table.distinct.sublist
    (List.Sublist.map key List.filter_sublist)

theorem mem_deleteWhere {table : Table key} {selected : Row → Bool}
    {row : Row} : row ∈ (table.deleteWhere selected).rows ↔
      row ∈ table.rows ∧ selected row = false := by
  simp [deleteWhere, List.mem_filter]

/-- The row count an UPDATE with this WHERE clause reports. -/
def countWhere (table : Table key) (selected : Row → Bool) : Nat :=
  (table.rows.filter selected).length

theorem mem_updateWhere {table : Table key} {selected : Row → Bool}
    {change : Row → Row} {keeps : ∀ row, key (change row) = key row}
    {row : Row} :
    row ∈ (table.updateWhere selected change keeps).rows ↔
      ∃ before ∈ table.rows,
        row = if selected before then change before else before := by
  simp only [updateWhere, List.mem_map, eq_comm]

variable [DecidableEq Key]

def get? (table : Table key) (wanted : Key) : Option Row :=
  table.rows.find? fun row => key row = wanted

/-- INSERT: refused when the key is taken. -/
def insert? (table : Table key) (row : Row) : Option (Table key) :=
  if fresh : key row ∈ table.rows.map key then none
  else some
    { rows := table.rows ++ [row]
      distinct := by
        rw [List.map_append, List.nodup_append]
        refine ⟨table.distinct, List.nodup_singleton _, ?_⟩
        intro taken member other single equal
        rw [List.map_singleton, List.mem_singleton] at single
        exact fresh (single ▸ equal ▸ member) }

/-- INSERT OR IGNORE. -/
def insertOrIgnore (table : Table key) (row : Row) : Table key :=
  (table.insert? row).getD table

theorem get?_some {table : Table key} {wanted : Key} {row : Row}
    (found : table.get? wanted = some row) :
    row ∈ table.rows ∧ key row = wanted := by
  refine ⟨List.mem_of_find?_eq_some found, ?_⟩
  simpa using List.find?_some found

theorem get?_eq_some_iff {table : Table key} {wanted : Key} {row : Row} :
    table.get? wanted = some row ↔ row ∈ table.rows ∧ key row = wanted := by
  refine ⟨get?_some, ?_⟩
  rintro ⟨member, rfl⟩
  have present : (table.get? (key row)).isSome := by
    rw [get?, List.find?_isSome]
    exact ⟨row, member, by simp⟩
  obtain ⟨other, found⟩ := Option.isSome_iff_exists.mp present
  obtain ⟨otherMember, sameKey⟩ := get?_some found
  rw [found, List.inj_on_of_nodup_map table.distinct otherMember member sameKey]

/-- The keys a WHERE clause selects, by lookup. -/
theorem mem_filter_key {table : Table key} {selected : Row → Bool}
    {wanted : Key} :
    wanted ∈ (table.rows.filter selected).map key ↔
      ∃ row, table.get? wanted = some row ∧ selected row = true := by
  simp only [List.mem_map, List.mem_filter, get?_eq_some_iff]
  constructor
  · rintro ⟨row, ⟨member, chosen⟩, same⟩
    exact ⟨row, ⟨member, same⟩, chosen⟩
  · rintro ⟨row, ⟨member, same⟩, chosen⟩
    exact ⟨row, ⟨member, chosen⟩, same⟩

theorem get?_eq_none_iff {table : Table key} {wanted : Key} :
    table.get? wanted = none ↔ ∀ row ∈ table.rows, key row ≠ wanted := by
  simp [get?, List.find?_eq_none]

@[simp] theorem get?_empty (wanted : Key) :
    (empty : Table key).get? wanted = none := rfl

@[simp] theorem get?_updateWhere (table : Table key) (selected : Row → Bool)
    (change : Row → Row) (keeps : ∀ row, key (change row) = key row)
    (wanted : Key) :
    (table.updateWhere selected change keeps).get? wanted =
      (table.get? wanted).map fun row =>
        if selected row then change row else row := by
  have sameTest : (fun row => decide (key row = wanted)) ∘
      (fun row => if selected row then change row else row) =
        fun row => decide (key row = wanted) := by
    funext row
    simp only [Function.comp_apply]
    split
    · rw [keeps]
    · rfl
  simp only [get?, updateWhere, List.find?_map, sameTest]

/-- An UPDATE whose WHERE clause fixes the key touches that row alone. -/
theorem get?_updateWhere_key (table : Table key) (wanted other : Key)
    (also : Row → Bool) (change : Row → Row)
    (keeps : ∀ row, key (change row) = key row) :
    (table.updateWhere (fun row => decide (key row = wanted) && also row)
        change keeps).get? other =
      if other = wanted then
        (table.get? other).map fun row => if also row then change row else row
      else table.get? other := by
  rw [get?_updateWhere]
  cases found : table.get? other with
  | none => simp
  | some row =>
      have same := (get?_some found).2
      by_cases named : other = wanted
      · simp [same, named]
      · simp [same, named]

theorem insert?_eq_some_iff {table after : Table key} {row : Row} :
    table.insert? row = some after ↔
      table.get? (key row) = none ∧ after.rows = table.rows ++ [row] := by
  unfold insert?
  by_cases taken : key row ∈ table.rows.map key
  · have present : table.get? (key row) ≠ none := by
      rw [Ne, get?_eq_none_iff]
      intro absent
      obtain ⟨other, member, same⟩ := List.mem_map.mp taken
      exact absent other member same
    simp [taken, present]
  · have absent : table.get? (key row) = none := by
      rw [get?_eq_none_iff]
      exact fun other member same => taken (List.mem_map.mpr ⟨other, member, same⟩)
    simp only [taken, dite_false, Option.some.injEq, absent, true_and]
    exact ⟨fun equal => equal ▸ rfl, fun rows => ext rows.symm⟩

theorem insert?_eq_none_iff {table : Table key} {row : Row} :
    table.insert? row = none ↔ table.get? (key row) ≠ none := by
  cases inserted : table.insert? row with
  | none =>
      refine ⟨fun _ absent => ?_, fun _ => rfl⟩
      have added : table.insert? row ≠ none := by
        have taken := get?_eq_none_iff.mp absent
        unfold insert?
        rw [dif_neg]
        · exact Option.some_ne_none _
        · intro member
          obtain ⟨other, present, same⟩ := List.mem_map.mp member
          exact taken other present same
      exact added inserted
  | some after =>
      have absent := (insert?_eq_some_iff.mp inserted).1
      simp [absent]

theorem get?_of_insert? {table after : Table key} {row : Row}
    (inserted : table.insert? row = some after) (wanted : Key) :
    after.get? wanted =
      if wanted = key row then some row else table.get? wanted := by
  obtain ⟨absent, rows⟩ := insert?_eq_some_iff.mp inserted
  unfold get? at *
  rw [rows, List.find?_append]
  by_cases same : wanted = key row
  · subst same
    simp [absent]
  · have different : key row ≠ wanted := fun equal => same equal.symm
    simp [same, different]

theorem insert?_of_fresh {table : Table key} {row : Row}
    (fresh : table.get? (key row) = none) :
    ∃ after, table.insert? row = some after ∧
      after.rows = table.rows ++ [row] := by
  cases inserted : table.insert? row with
  | none => exact absurd fresh (insert?_eq_none_iff.mp inserted)
  | some after => exact ⟨after, rfl, (insert?_eq_some_iff.mp inserted).2⟩

theorem rows_insertOrIgnore (table : Table key) (row : Row) :
    (table.insertOrIgnore row).rows =
      if (table.get? (key row)).isSome then table.rows
      else table.rows ++ [row] := by
  cases held : table.get? (key row) with
  | none =>
      obtain ⟨after, inserted, rows⟩ := insert?_of_fresh held
      rw [insertOrIgnore, inserted, Option.getD_some, rows]
      rfl
  | some other =>
      have taken : table.insert? row = none := by
        rw [insert?_eq_none_iff, held]
        exact Option.some_ne_none _
      rw [insertOrIgnore, taken, Option.getD_none]
      rfl

theorem isSome_get?_iff {table : Table key} {wanted : Key} :
    (table.get? wanted).isSome ↔ ∃ row ∈ table.rows, key row = wanted := by
  simp [get?, List.find?_isSome]

theorem mem_insertOrIgnore {table : Table key} {row other : Row}
    (member : other ∈ (table.insertOrIgnore row).rows) :
    other ∈ table.rows ∨ other = row := by
  rw [rows_insertOrIgnore] at member
  split at member
  · exact .inl member
  · rcases List.mem_append.mp member with held | added
    · exact .inl held
    · exact .inr (List.mem_singleton.mp added)

theorem isSome_get?_insertOrIgnore {table : Table key} {row : Row}
    {wanted : Key} (held : (table.get? wanted).isSome ∨ key row = wanted) :
    ((table.insertOrIgnore row).get? wanted).isSome := by
  rw [isSome_get?_iff, rows_insertOrIgnore]
  split
  case isTrue taken =>
      rcases held with held | rfl
      · exact isSome_get?_iff.mp held
      · exact isSome_get?_iff.mp taken
  case isFalse =>
      rcases held with held | same
      · obtain ⟨other, member, same⟩ := isSome_get?_iff.mp held
        exact ⟨other, List.mem_append_left _ member, same⟩
      · exact ⟨row, List.mem_append_right _ (List.mem_singleton_self _), same⟩

private theorem filter_key_length {rows : List Row} (wanted : Key)
    (also : Row → Bool) (distinct : (rows.map key).Nodup) :
    (rows.filter fun row => decide (key row = wanted) && also row).length =
      if (rows.find? fun row => key row = wanted).any also then 1 else 0 := by
  induction rows with
  | nil => rfl
  | cons head tail ih =>
      rw [List.map_cons, List.nodup_cons] at distinct
      by_cases same : key head = wanted
      · have rest : (tail.filter fun row =>
            decide (key row = wanted) && also row) = [] := by
          rw [List.filter_eq_nil_iff]
          intro row member
          have different : key row ≠ wanted := fun equal =>
            distinct.1 (List.mem_map.mpr ⟨row, member, equal.trans same.symm⟩)
          simp [different]
        rw [List.filter_cons, List.find?_cons_of_pos (by simpa using same)]
        cases chosen : also head <;> simp [same, chosen, rest]
      · simpa [same] using ih distinct.2

/-- A WHERE clause that fixes the key selects at most the row it names. -/
theorem countWhere_key (table : Table key) (wanted : Key)
    (also : Row → Bool) :
    table.countWhere (fun row => decide (key row = wanted) && also row) =
      if (table.get? wanted).any also then 1 else 0 :=
  filter_key_length wanted also table.distinct

end Table

end Foundation
