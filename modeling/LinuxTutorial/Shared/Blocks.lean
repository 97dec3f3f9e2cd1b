import Mathlib.Data.List.Basic
import Mathlib.Tactic.Ring

set_option autoImplicit false

namespace Blocks

variable {α β ι : Type}

def loads (block : List α) : List Nat → Option (List α)
  | [] => some []
  | index :: rest => do
    let value ← block[index]?
    let values ← loads block rest
    some (value :: values)

def stores : List α → List (Nat × α) → Option (List α)
  | block, [] => some block
  | block, (index, value) :: rest =>
    if index < block.length then stores (block.set index value) rest else none

/-- For each item what is at `reads` of the source, then the stores that are computed from it. -/
def transfer (source : List α) (reads : ι → List Nat) (writes : ι → List α → List (Nat × β)) :
    List ι → List β → Option (List β)
  | [], target => some target
  | item :: rest, target => do
    let values ← loads source (reads item)
    let stored ← stores target (writes item values)
    transfer source reads writes rest stored

def transferStores (source : List α) (reads : ι → List Nat)
    (writes : ι → List α → List (Nat × β)) : List ι → Option (List (Nat × β))
  | [] => some []
  | item :: rest => do
    let values ← loads source (reads item)
    let later ← transferStores source reads writes rest
    some (writes item values ++ later)

theorem loads_isSome (block : List α) (indices : List Nat) :
    (loads block indices).isSome = true ↔ ∀ index, index ∈ indices → index < block.length := by
  induction indices with
  | nil => simp [loads]
  | cons index rest ih =>
    by_cases inside : index < block.length
    · cases found : loads block rest with
      | none => simp_all [loads]
      | some values => simp_all [loads]
    · simp [loads, inside]

theorem loads_getD {block : List α} {indices : List Nat} (fallback : α)
    (inside : ∀ index, index ∈ indices → index < block.length) :
    loads block indices = some (indices.map (block.getD · fallback)) := by
  induction indices with
  | nil => rfl
  | cons index rest ih =>
    simp only [List.mem_cons, forall_eq_or_imp] at inside
    simp [loads, ih inside.2, inside.1]

theorem loads_congr {one two : List α} {indices : List Nat}
    (same : ∀ index, index ∈ indices → one[index]? = two[index]?) :
    loads one indices = loads two indices := by
  induction indices with
  | nil => rfl
  | cons index rest ih =>
    simp only [List.mem_cons, forall_eq_or_imp] at same
    simp only [loads, same.1, ih same.2]

theorem stores_isSome (block : List α) (writes : List (Nat × α)) :
    (stores block writes).isSome = true ↔
      ∀ index, index ∈ writes.map Prod.fst → index < block.length := by
  induction writes generalizing block with
  | nil => simp [stores]
  | cons write rest ih =>
    obtain ⟨index, value⟩ := write
    by_cases inside : index < block.length
    · simp [stores, inside, ih]
    · simp [stores, inside]

theorem length_stores {block stored : List α} {writes : List (Nat × α)}
    (completed : stores block writes = some stored) : stored.length = block.length := by
  induction writes generalizing block with
  | nil =>
    cases completed
    rfl
  | cons write rest ih =>
    obtain ⟨index, value⟩ := write
    simp only [stores] at completed
    split_ifs at completed
    rw [ih completed, List.length_set]

theorem stores_append (block : List α) (first second : List (Nat × α)) :
    stores block (first ++ second) = (stores block first).bind (stores · second) := by
  induction first generalizing block with
  | nil => rfl
  | cons write rest ih =>
    obtain ⟨index, value⟩ := write
    simp only [List.cons_append, stores]
    split_ifs
    · exact ih _
    · rfl

theorem stores_before {block behind : List α} {writes : List (Nat × α)}
    (inside : ∀ index, index ∈ writes.map Prod.fst → index < block.length) :
    stores (block ++ behind) writes = (stores block writes).map (· ++ behind) := by
  induction writes generalizing block with
  | nil => rfl
  | cons write rest ih =>
    obtain ⟨index, value⟩ := write
    simp only [List.map_cons, List.mem_cons, forall_eq_or_imp] at inside
    have here : index < (block ++ behind).length := by
      rw [List.length_append]
      omega
    have later := @ih (block.set index value) (by simpa using inside.2)
    simp only [stores, here, inside.1, if_true, List.set_append_left index value inside.1, later]

-- By the stores: those that are done have filled the block up to the next index.
theorem stores_behind (filled block : List α) (writes : List (Nat × α))
    (indices : writes.map Prod.fst = List.range' filled.length block.length) :
    stores (filled ++ block) writes = some (filled ++ writes.map Prod.snd) := by
  induction writes generalizing filled block with
  | nil =>
    have empty : block = [] := by
      cases block with
      | nil => rfl
      | cons head tail => simp [List.range'] at indices
    simp [stores, empty]
  | cons write rest ih =>
    obtain ⟨index, value⟩ := write
    cases block with
    | nil => simp at indices
    | cons head tail =>
      simp only [List.map_cons, List.length_cons, List.range'_succ, List.cons.injEq] at indices
      obtain ⟨rfl, later⟩ := indices
      have next := ih (filled ++ [value]) tail (by simpa using later)
      simpa [stores] using next

theorem stores_range (block : List α) (writes : List (Nat × α))
    (indices : writes.map Prod.fst = List.range block.length) :
    stores block writes = some (writes.map Prod.snd) := by
  apply stores_behind [] block writes
  rw [indices, List.range_eq_range', List.length_nil]

section Transfer

variable {source : List α} {reads : ι → List Nat} {writes : ι → List α → List (Nat × β)}

theorem transfer_eq_bind (items : List ι) (target : List β) :
    transfer source reads writes items target =
      (transferStores source reads writes items).bind (stores target) := by
  induction items generalizing target with
  | nil => rfl
  | cons item rest ih =>
    simp only [transfer, transferStores]
    cases loads source (reads item) with
    | none => rfl
    | some values =>
      simp only [Option.bind_eq_bind, Option.bind_some, ih]
      cases logged : transferStores source reads writes rest with
      | none => simp
      | some later => simp [stores_append]

theorem transferStores_eq {values : ι → List α} {items : List ι}
    (found : ∀ item, item ∈ items → loads source (reads item) = some (values item)) :
    transferStores source reads writes items =
      some (items.flatMap fun item => writes item (values item)) := by
  induction items with
  | nil => rfl
  | cons item rest ih =>
    simp only [List.mem_cons, forall_eq_or_imp] at found
    simp [transferStores, found.1, ih found.2]

theorem transfer_eq_stores {values : ι → List α} {items : List ι} (target : List β)
    (found : ∀ item, item ∈ items → loads source (reads item) = some (values item)) :
    transfer source reads writes items target =
      stores target (items.flatMap fun item => writes item (values item)) := by
  rw [transfer_eq_bind, transferStores_eq found, Option.bind_some]

theorem transfer_congr {other : List α} {items : List ι} (target : List β)
    (same : ∀ read, read ∈ items.flatMap reads → source[read]? = other[read]?) :
    transfer source reads writes items target = transfer other reads writes items target := by
  induction items generalizing target with
  | nil => rfl
  | cons item rest ih =>
    simp only [List.flatMap_cons, List.forall_mem_append] at same
    simp only [transfer, loads_congr same.1, ih _ same.2]

theorem transfer_isSome {targets : ι → List Nat}
    (indices : ∀ item values, loads source (reads item) = some values →
      (writes item values).map Prod.fst = targets item)
    (items : List ι) (target : List β) :
    (transfer source reads writes items target).isSome = true ↔
      (∀ read, read ∈ items.flatMap reads → read < source.length) ∧
        ∀ write, write ∈ items.flatMap targets → write < target.length := by
  induction items generalizing target with
  | nil => simp [transfer]
  | cons item rest ih =>
    have loaded := loads_isSome source (reads item)
    simp only [List.flatMap_cons, List.forall_mem_append, ← loaded]
    cases found : loads source (reads item) with
    | none => simp [transfer, found]
    | some values =>
      have stored := stores_isSome target (writes item values)
      rw [indices item values found] at stored
      rw [← stored]
      cases completed : stores target (writes item values) with
      | none => simp [transfer, found, completed]
      | some after =>
        have later := ih after
        rw [length_stores completed] at later
        simp [transfer, found, completed, later]

end Transfer

section Rows

variable {rows : ι → Option β} {indices : List ι}

theorem mapM_isSome : (indices.mapM rows).isSome = true ↔
    ∀ index, index ∈ indices → (rows index).isSome = true := by
  induction indices with
  | nil => simp
  | cons index rest ih =>
    rw [List.mapM_cons]
    cases row : rows index with
    | none => simp [row]
    | some value =>
      cases later : rest.mapM rows with
      | none => simp_all
      | some values => simp_all

theorem mapM_eq_map {row : ι → β}
    (found : ∀ index, index ∈ indices → rows index = some (row index)) :
    indices.mapM rows = some (indices.map row) := by
  induction indices with
  | nil => rfl
  | cons index rest ih =>
    simp only [List.mem_cons, forall_eq_or_imp] at found
    simp [List.mapM_cons, found.1, ih found.2]

end Rows

section Layout

theorem flatMap_range_mul (rows columns : Nat) (cell : Nat → List α) :
    ((List.range rows).flatMap fun row =>
      (List.range columns).flatMap fun column => cell (row * columns + column)) =
      (List.range (rows * columns)).flatMap cell := by
  induction rows with
  | zero => simp
  | succ rows ih =>
    rw [List.range_succ, List.flatMap_append, ih, Nat.succ_mul, List.range_add,
      List.flatMap_append, List.flatMap_map]
    simp

theorem range_mul (rows columns : Nat) :
    ((List.range rows).flatMap fun row => (List.range columns).map (row * columns + ·)) =
      List.range (rows * columns) := by
  have cells := flatMap_range_mul rows columns fun index => [index]
  rw [List.flatMap_singleton'] at cells
  rw [← cells]
  apply List.flatMap_congr
  intro row _
  rw [List.map_eq_flatMap]

theorem length_flatMap_range {size : Nat} {cell : Nat → List α}
    (sizes : ∀ index, (cell index).length = size) (count : Nat) :
    ((List.range count).flatMap cell).length = count * size := by
  induction count with
  | zero => simp
  | succ count ih =>
    rw [List.range_succ, List.flatMap_append, List.length_append, ih, Nat.succ_mul]
    simp [sizes]

theorem getElem?_flatMap_range {size : Nat} {cell : Nat → List α}
    (sizes : ∀ index, (cell index).length = size) {count index offset : Nat}
    (row : index < count) (column : offset < size) :
    ((List.range count).flatMap cell)[index * size + offset]? = (cell index)[offset]? := by
  induction count with
  | zero => omega
  | succ count ih =>
    have before := length_flatMap_range sizes count
    rw [List.range_succ, List.flatMap_append]
    by_cases earlier : index < count
    · rw [List.getElem?_append_left, ih earlier]
      have rows : (index + 1) * size ≤ count * size := Nat.mul_le_mul_right _ earlier
      rw [Nat.succ_mul] at rows
      omega
    · obtain rfl : index = count := by omega
      rw [List.getElem?_append_right (by omega), before, Nat.add_sub_cancel_left]
      simp

theorem take_drop_flatMap_range {size : Nat} {cell : Nat → List α}
    (sizes : ∀ index, (cell index).length = size) {count index : Nat} (row : index < count) :
    (((List.range count).flatMap cell).drop (index * size)).take size = cell index := by
  apply List.ext_getElem?
  intro offset
  by_cases column : offset < size
  · rw [List.getElem?_take, if_pos column, List.getElem?_drop,
      getElem?_flatMap_range sizes row column]
  · rw [List.getElem?_take, if_neg column, List.getElem?_eq_none]
    rw [sizes]
    omega

end Layout

end Blocks
