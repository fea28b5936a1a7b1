/-!
# Tables

A table gives every key one value at most.  Its entries are kept as a list in which no key occurs
twice; nothing that is asked of a table depends on their order.  Looking a key up after an operation
is described by one law for each operation.
-/

namespace SignOn.Store

set_option autoImplicit false

/-- A finite map from keys to values. -/
structure Table (κ ν : Type) where
  entries : List (κ × ν)
  distinct : (entries.map Prod.fst).Nodup := by simp

namespace Table

variable {κ ν : Type}

/-- Leaving out entries keeps the keys distinct. -/
theorem nodup_filter {entries : List (κ × ν)} (test : κ × ν → Bool)
    (distinct : (entries.map Prod.fst).Nodup) : ((entries.filter test).map Prod.fst).Nodup :=
  distinct.sublist (List.filter_sublist.map Prod.fst)

variable [DecidableEq κ]

/-- The table without entries. -/
def empty : Table κ ν := ⟨[], by simp⟩

/-- The value of a key. -/
def get? (table : Table κ ν) (key : κ) : Option ν :=
  (table.entries.find? fun entry => entry.1 = key).map Prod.snd

/-- The number of entries. -/
def size (table : Table κ ν) : Nat := table.entries.length

/-- The entries that satisfy a test. -/
def filter (test : κ → ν → Bool) (table : Table κ ν) : Table κ ν :=
  ⟨table.entries.filter fun entry => test entry.1 entry.2, nodup_filter _ table.distinct⟩

/-- The table without a key. -/
def erase (table : Table κ ν) (key : κ) : Table κ ν :=
  table.filter fun other _ => other ≠ key

/-- The table in which a key has the given value. -/
def insert (table : Table κ ν) (key : κ) (value : ν) : Table κ ν :=
  ⟨(key, value) :: (table.erase key).entries, by
    simp only [List.map_cons, List.nodup_cons]
    exact ⟨by simp [erase, filter], (table.erase key).distinct⟩⟩

/-! ## Looking up after an operation -/

@[simp] theorem get?_empty (key : κ) : (empty : Table κ ν).get? key = none := rfl

/-- Every entry is the value of its key. -/
theorem get?_of_mem {table : Table κ ν} {key : κ} {value : ν}
    (member : (key, value) ∈ table.entries) : table.get? key = some value := by
  obtain ⟨entries, distinct⟩ := table
  simp only [get?] at member ⊢
  induction entries with
  | nil => cases member
  | cons entry rest ih =>
    simp only [List.map_cons, List.nodup_cons] at distinct
    rcases List.mem_cons.1 member with rfl | later
    · simp
    · have differs : entry.1 ≠ key := fun same =>
        distinct.1 (List.mem_map.2 ⟨(key, value), later, same.symm⟩)
      rw [List.find?_cons_of_neg (by simpa using differs)]
      exact ih distinct.2 later

theorem get?_filter (test : κ → ν → Bool) (table : Table κ ν) (key : κ) :
    (table.filter test).get? key = (table.get? key).filter (test key) := by
  obtain ⟨entries, distinct⟩ := table
  simp only [get?, filter]
  induction entries with
  | nil => rfl
  | cons entry rest ih =>
    obtain ⟨other, value⟩ := entry
    simp only [List.map_cons, List.nodup_cons] at distinct
    by_cases same : other = key
    · subst same
      have absent : (rest.filter fun e => test e.1 e.2).find? (fun e => decide (e.1 = other)) = none := by
        simp only [List.find?_eq_none, List.mem_filter, decide_eq_true_eq, and_imp, Prod.forall]
        intro k v member _ equal
        exact distinct.1 (List.mem_map.2 ⟨(k, v), member, equal⟩)
      by_cases kept : test other value = true
      · simp [kept, Option.filter]
      · simp only [Bool.not_eq_true] at kept
        simp [kept, absent, Option.filter]
    · by_cases kept : test other value = true
      · simpa [kept, same] using ih distinct.2
      · simp only [Bool.not_eq_true] at kept
        simpa [kept, same] using ih distinct.2

@[simp] theorem get?_insert_self (table : Table κ ν) (key : κ) (value : ν) :
    (table.insert key value).get? key = some value := by
  simp [get?, insert]

theorem get?_erase (table : Table κ ν) (key other : κ) :
    (table.erase key).get? other = if other = key then none else table.get? other := by
  unfold erase
  rw [get?_filter]
  by_cases same : other = key
  · cases h : table.get? other <;> simp [same, Option.filter]
  · cases h : table.get? other <;> simp [same, Option.filter]

theorem get?_insert_of_ne (table : Table κ ν) {key other : κ} (value : ν) (differs : other ≠ key) :
    (table.insert key value).get? other = table.get? other := by
  have step : (table.insert key value).get? other = (table.erase key).get? other := by
    simp [get?, insert, Ne.symm differs]
  rw [step, get?_erase, if_neg differs]

theorem get?_insert (table : Table κ ν) (key other : κ) (value : ν) :
    (table.insert key value).get? other = if other = key then some value else table.get? other := by
  by_cases same : other = key
  · rw [if_pos same, same, get?_insert_self]
  · rw [if_neg same, get?_insert_of_ne table value same]

end Table

end SignOn.Store
