import Mathlib.Data.List.Basic
import Mathlib.Data.List.Induction

set_option autoImplicit false

namespace Rows

variable {α γ : Type}

def place (width : Nat) (rows : List (List α)) (item : α) : List (List α) :=
  if width ∣ rows.flatten.length then rows ++ [[item]]
  else rows.dropLast ++ [rows.getLast?.getD [] ++ [item]]

def layOut (width : Nat) (items : List α) : List (List α) := items.foldl (place width) []

/-- Every row but the last is full, and the last is not empty. -/
structure Shaped (width : Nat) (rows : List (List α)) : Prop where
  full : ∀ row, row ∈ rows.dropLast → row.length = width
  last : ∀ row, rows.getLast? = some row → 1 ≤ row.length ∧ row.length ≤ width

theorem Shaped.nil (width : Nat) : Shaped width ([] : List (List α)) where
  full row member := by cases member
  last row found := by cases found

theorem shaped_append {width : Nat} {rows : List (List α)} {row : List α} :
    Shaped width (rows ++ [row]) ↔
      (∀ other, other ∈ rows → other.length = width) ∧ 1 ≤ row.length ∧ row.length ≤ width := by
  constructor
  · intro shaped
    have full := shaped.full
    rw [List.dropLast_concat] at full
    exact ⟨full, shaped.last row (by simp)⟩
  · rintro ⟨full, bounds⟩
    constructor
    · rwa [List.dropLast_concat]
    · intro other found
      rw [List.getLast?_concat, Option.some.injEq] at found
      exact found ▸ bounds

theorem Shaped.ne_nil {width : Nat} {rows : List (List α)} {row : List α}
    (shaped : Shaped width rows) (positive : 0 < width) (member : row ∈ rows) : row ≠ [] := by
  apply List.ne_nil_of_length_pos
  rcases List.eq_nil_or_concat' rows with rfl | ⟨before, last, rfl⟩
  · cases member
  · obtain ⟨full, lower, -⟩ := shaped_append.mp shaped
    rcases List.mem_append.mp member with earlier | final
    · rw [full row earlier]
      exact positive
    · rw [List.mem_singleton.mp final]
      exact lower

theorem length_flatten_full {width : Nat} {rows : List (List α)}
    (full : ∀ row, row ∈ rows → row.length = width) :
    rows.flatten.length = rows.length * width := by
  rw [List.length_flatten, List.map_congr_left full, List.map_const',
    List.sum_replicate_nat]

theorem flatten_place (width : Nat) (rows : List (List α)) (item : α) :
    (place width rows item).flatten = rows.flatten ++ [item] := by
  unfold place
  split_ifs with new
  · simp
  · rcases List.eq_nil_or_concat' rows with rfl | ⟨before, last, rfl⟩
    · simp at new
    · simp

theorem Shaped.place {width : Nat} {rows : List (List α)} (shaped : Shaped width rows)
    (positive : 0 < width) (item : α) : Shaped width (place width rows item) := by
  unfold Rows.place
  rcases List.eq_nil_or_concat' rows with rfl | ⟨before, last, rfl⟩
  · simpa using (@shaped_append α width [] [item]).mpr ⟨by simp, Nat.le_refl _, positive⟩
  · obtain ⟨full, lower, upper⟩ := shaped_append.mp shaped
    have length : (before ++ [last]).flatten.length = before.length * width + last.length := by
      rw [List.flatten_append, List.length_append, length_flatten_full full]
      simp
    have filled : width ∣ (before ++ [last]).flatten.length ↔ last.length = width := by
      rw [length, Nat.dvd_add_right (Nat.dvd_mul_left width before.length)]
      constructor
      · intro divides
        exact Nat.le_antisymm upper (Nat.le_of_dvd lower divides)
      · intro same
        simp [same]
    split_ifs with new
    · refine shaped_append.mpr ⟨?_, Nat.le_refl _, positive⟩
      intro other member
      rcases List.mem_append.mp member with earlier | final
      · exact full other earlier
      · rw [List.mem_singleton.mp final]
        exact filled.mp new
    · have room : last.length ≠ width := fun same => new (filled.mpr same)
      simp only [List.dropLast_concat, List.getLast?_concat, Option.getD_some]
      refine shaped_append.mpr ⟨full, ?_, ?_⟩
      · simp
      · rw [List.length_append, List.length_singleton]
        omega

theorem layOut_append (width : Nat) (items : List α) (item : α) :
    layOut width (items ++ [item]) = place width (layOut width items) item := by
  simp [layOut]

theorem flatten_layOut (width : Nat) (items : List α) : (layOut width items).flatten = items := by
  induction items using List.reverseRecOn with
  | nil => rfl
  | append_singleton items item ih => rw [layOut_append, flatten_place, ih]

theorem shaped_layOut {width : Nat} (positive : 0 < width) (items : List α) :
    Shaped width (layOut width items) := by
  induction items using List.reverseRecOn with
  | nil => exact .nil width
  | append_singleton items item ih =>
    rw [layOut_append]
    exact ih.place positive item

section Text

variable [BEq γ] [LawfulBEq γ]

def fields (separator : γ) (text : List γ) : List (List γ) :=
  (text.splitOn separator).filter (! ·.isEmpty)

theorem fields_append_cons (separator : γ) (first rest : List γ) :
    fields separator (first ++ separator :: rest) =
      fields separator first ++ fields separator rest := by
  rw [fields, List.splitOn_append_cons_self, List.filter_append]
  rfl

theorem fields_cons (separator : γ) (text : List γ) :
    fields separator (separator :: text) = fields separator text :=
  fields_append_cons separator [] text

theorem fields_whole {separator : γ} {text : List γ} (nonempty : text ≠ [])
    (inside : separator ∉ text) : fields separator text = [text] := by
  rw [fields, List.splitOn_eq_singleton inside]
  simp [nonempty]

theorem fields_flatMap {separator : γ} {token : α → List γ} (items : List α)
    (nonempty : ∀ item, item ∈ items → token item ≠ [])
    (inside : ∀ item, item ∈ items → separator ∉ token item) :
    fields separator (items.flatMap fun item => token item ++ [separator]) = items.map token := by
  induction items with
  | nil => rfl
  | cons item items ih =>
    simp only [List.mem_cons, forall_eq_or_imp] at nonempty inside
    rw [List.flatMap_cons, List.append_assoc, List.singleton_append, fields_append_cons,
      fields_whole nonempty.1 inside.1, ih nonempty.2 inside.2]
    rfl

def rowText (blank : γ) (token : α → List γ) (row : List α) : List γ :=
  row.flatMap fun item => token item ++ [blank]

def rowsText (newline blank : γ) (token : α → List γ) (rows : List (List α)) : List γ :=
  rows.flatMap fun row => newline :: rowText blank token row

def readRows (newline blank : γ) (read : List γ → Option α) (text : List γ) :
    Option (List (List α)) :=
  (fields newline text).mapM fun row => (fields blank row).mapM read

omit [BEq γ] [LawfulBEq γ] in
theorem rowsText_place (newline blank : γ) (token : α → List γ) (width : Nat)
    (rows : List (List α)) (item : α) :
    rowsText newline blank token (place width rows item) =
      rowsText newline blank token rows ++
        (if width ∣ rows.flatten.length then [newline] else []) ++ token item ++ [blank] := by
  unfold place
  split_ifs with new
  · simp [rowsText, rowText]
  · rcases List.eq_nil_or_concat' rows with rfl | ⟨before, last, rfl⟩
    · simp at new
    · simp [rowsText, rowText]

omit [BEq γ] [LawfulBEq γ] in
-- The newline before each row but the first ends the row before it.
theorem rowsText_append_newline (newline blank : γ) (token : α → List γ)
    (rows : List (List α)) :
    rowsText newline blank token rows ++ [newline] =
      newline :: rows.flatMap fun row => rowText blank token row ++ [newline] := by
  induction rows with
  | nil => rfl
  | cons row rows ih =>
    simp only [rowsText] at ih
    simp [rowsText, ih]

omit [BEq γ] [LawfulBEq γ] in
theorem mapM_map {read : List γ → Option α} {token : α → List γ} (items : List α)
    (exactly : ∀ item, item ∈ items → read (token item) = some item) :
    (items.map token).mapM read = some items := by
  induction items with
  | nil => rfl
  | cons item items ih =>
    simp only [List.mem_cons, forall_eq_or_imp] at exactly
    simp [exactly.1, ih exactly.2]

/-- Tokens that read back and that keep clear of the separators. -/
structure Legible (newline blank : γ) (token : α → List γ) (read : List γ → Option α) : Prop where
  different : newline ≠ blank
  nonempty : ∀ item, token item ≠ []
  noNewline : ∀ item, newline ∉ token item
  noBlank : ∀ item, blank ∉ token item
  exactly : ∀ item, read (token item) = some item

theorem Legible.readRows {newline blank : γ} {token : α → List γ} {read : List γ → Option α}
    {rows : List (List α)} (legible : Legible newline blank token read)
    (filled : ∀ row, row ∈ rows → row ≠ []) :
    readRows newline blank read (rowsText newline blank token rows ++ [newline]) = some rows := by
  have rowNonempty (row : List α) (member : row ∈ rows) : rowText blank token row ≠ [] := by
    obtain ⟨item, rest, rfl⟩ := List.exists_cons_of_ne_nil (filled row member)
    simp [rowText]
  have rowInside (row : List α) (_ : row ∈ rows) : newline ∉ rowText blank token row := by
    simp [rowText, legible.noNewline, legible.different]
  have rowRead (row : List α) (_ : row ∈ rows) :
      (fields blank (rowText blank token row)).mapM read = some row := by
    rw [rowText, fields_flatMap row (fun item _ => legible.nonempty item)
      (fun item _ => legible.noBlank item)]
    exact mapM_map row fun item _ => legible.exactly item
  rw [Rows.readRows, rowsText_append_newline, fields_cons,
    fields_flatMap rows rowNonempty rowInside]
  exact mapM_map rows rowRead

end Text

end Rows
