import Mathlib.Data.Finset.Card
import Mathlib.Data.List.Nodup

namespace Foundation

/-! The first element with each key, in order. -/

variable {Item Key : Type} [DecidableEq Key] (key : Item → Key)

/-- Those whose key was not seen before. -/
def firstsFrom (seen : List Key) : List Item → List Item
  | [] => []
  | item :: rest =>
      if key item ∈ seen then firstsFrom seen rest
      else item :: firstsFrom (key item :: seen) rest

def firsts (items : List Item) : List Item := firstsFrom key [] items

variable {key}

theorem mem_of_mem_firstsFrom {seen : List Key} {items : List Item}
    {item : Item} (member : item ∈ firstsFrom key seen items) :
    item ∈ items := by
  induction items generalizing seen with
  | nil => exact member
  | cons first rest ih =>
      simp only [firstsFrom] at member
      split at member
      · exact List.mem_cons_of_mem _ (ih member)
      · rcases List.mem_cons.mp member with same | later
        · exact same ▸ List.mem_cons_self ..
        · exact List.mem_cons_of_mem _ (ih later)

theorem mem_of_mem_firsts {items : List Item} {item : Item}
    (member : item ∈ firsts key items) : item ∈ items :=
  mem_of_mem_firstsFrom member

/-- What is left out has its key among those seen or kept. -/
theorem exists_mem_firstsFrom {seen : List Key} {items : List Item}
    {item : Item} (member : item ∈ items) (new : key item ∉ seen) :
    ∃ kept ∈ firstsFrom key seen items, key kept = key item := by
  induction items generalizing seen with
  | nil => cases member
  | cons first rest ih =>
      simp only [firstsFrom]
      rcases List.mem_cons.mp member with same | later
      · subst same
        rw [if_neg new]
        exact ⟨item, List.mem_cons_self .., rfl⟩
      · split
        · exact ih later new
        · by_cases own : key item = key first
          · exact ⟨first, List.mem_cons_self .., own.symm⟩
          · have fresh : key item ∉ key first :: seen := by simp [own, new]
            obtain ⟨kept, among, same⟩ := ih later fresh
            exact ⟨kept, List.mem_cons_of_mem _ among, same⟩

theorem exists_mem_firsts {items : List Item} {item : Item}
    (member : item ∈ items) :
    ∃ kept ∈ firsts key items, key kept = key item :=
  exists_mem_firstsFrom member List.not_mem_nil

theorem key_notMem_of_mem_firstsFrom {seen : List Key} {items : List Item}
    {item : Item} (member : item ∈ firstsFrom key seen items) :
    key item ∉ seen := by
  induction items generalizing seen with
  | nil => cases member
  | cons first rest ih =>
      simp only [firstsFrom] at member
      split at member
      · exact ih member
      · rename_i new
        rcases List.mem_cons.mp member with same | later
        · exact same ▸ new
        · exact fun old => ih later (List.mem_cons_of_mem _ old)

theorem nodup_map_firstsFrom (seen : List Key) (items : List Item) :
    ((firstsFrom key seen items).map key).Nodup := by
  induction items generalizing seen with
  | nil => exact List.nodup_nil
  | cons first rest ih =>
      simp only [firstsFrom]
      split
      · exact ih seen
      · rw [List.map_cons, List.nodup_cons]
        refine ⟨?_, ih _⟩
        intro member
        obtain ⟨other, later, same⟩ := List.mem_map.mp member
        exact key_notMem_of_mem_firstsFrom later
          (same ▸ List.mem_cons_self ..)

theorem nodup_map_firsts (items : List Item) :
    ((firsts key items).map key).Nodup :=
  nodup_map_firstsFrom [] items

theorem firstsFrom_eq_self {seen : List Key} {items : List Item}
    (distinct : (items.map key).Nodup)
    (new : ∀ item ∈ items, key item ∉ seen) :
    firstsFrom key seen items = items := by
  induction items generalizing seen with
  | nil => rfl
  | cons first rest ih =>
      rw [List.map_cons, List.nodup_cons] at distinct
      rw [firstsFrom, if_neg (new first (List.mem_cons_self ..)),
        ih distinct.2]
      intro item later old
      rcases List.mem_cons.mp old with same | old
      · exact distinct.1 (List.mem_map.mpr ⟨item, later, same⟩)
      · exact new item (List.mem_cons_of_mem _ later) old

/-- Nothing is left out exactly when no two keys are alike. -/
theorem firsts_eq_self_iff {items : List Item} :
    firsts key items = items ↔ (items.map key).Nodup := by
  constructor
  · intro same
    rw [← same]
    exact nodup_map_firsts items
  · intro distinct
    exact firstsFrom_eq_self distinct fun _ _ => List.not_mem_nil

theorem mem_map_firsts {items : List Item} {value : Key} :
    value ∈ (firsts key items).map key ↔ value ∈ items.map key := by
  simp only [List.mem_map]
  constructor
  · rintro ⟨item, member, same⟩
    exact ⟨item, mem_of_mem_firsts member, same⟩
  · rintro ⟨item, member, same⟩
    obtain ⟨kept, among, alike⟩ : ∃ kept ∈ firsts key items,
        key kept = key item := exists_mem_firsts member
    exact ⟨kept, among, alike.trans same⟩

theorem length_firsts (items : List Item) :
    (firsts key items).length = (items.map key).toFinset.card := by
  have same : (items.map key).toFinset =
      ((firsts key items).map key).toFinset := by
    ext value
    rw [List.mem_toFinset, List.mem_toFinset, mem_map_firsts]
  rw [same, List.toFinset_card_of_nodup (nodup_map_firsts items),
    List.length_map]

end Foundation
