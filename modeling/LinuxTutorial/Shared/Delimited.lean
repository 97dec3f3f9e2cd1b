import Mathlib.Data.List.Basic

set_option autoImplicit false

namespace Delimited

section Records

variable {α β : Type}

def recordsWithin (read : List α → Option (β × List α)) : Nat → List α → Option (List β)
  | _, [] => some []
  | 0, _ :: _ => none
  | fuel + 1, text => do
    let (record, rest) ← read text
    let later ← recordsWithin read fuel rest
    some (record :: later)

def records (read : List α → Option (β × List α)) (text : List α) : Option (List β) :=
  recordsWithin read text.length text

theorem recordsWithin_flatMap {read : List α → Option (β × List α)} {print : β → List α}
    {items : List β} {fuel : Nat} (nonempty : ∀ item, print item ≠ [])
    (reads : ∀ item, item ∈ items → ∀ rest, read (print item ++ rest) = some (item, rest))
    (enough : (items.flatMap print).length ≤ fuel) :
    recordsWithin read fuel (items.flatMap print) = some items := by
  induction items generalizing fuel with
  | nil => cases fuel <;> rfl
  | cons item items ih =>
    simp only [List.mem_cons, forall_eq_or_imp] at reads
    obtain ⟨first, more, shape⟩ := List.exists_cons_of_ne_nil (nonempty item)
    have split := reads.1 (items.flatMap print)
    rw [List.flatMap_cons, shape] at enough ⊢
    rw [shape] at split
    cases fuel with
    | zero => simp at enough
    | succ fuel =>
      have later := @ih fuel reads.2 (by
        simp only [List.length_append, List.length_cons] at enough
        omega)
      simp only [List.cons_append] at split ⊢
      simp only [recordsWithin, split, later, Option.bind_eq_bind, Option.bind_some]

theorem recordsWithin_all {read : List α → Option (β × List α)} {good : β → Prop}
    (sound : ∀ text item rest, read text = some (item, rest) → good item) {text : List α}
    {items : List β} {fuel : Nat} (found : recordsWithin read fuel text = some items) :
    ∀ item, item ∈ items → good item := by
  induction fuel generalizing text items with
  | zero =>
    cases text with
    | nil =>
      cases found
      simp
    | cons item text => cases found
  | succ fuel ih =>
    cases text with
    | nil =>
      cases found
      simp
    | cons item text =>
      obtain ⟨⟨record, rest⟩, one, found⟩ := Option.bind_eq_some_iff.mp found
      obtain ⟨later, others, same⟩ := Option.bind_eq_some_iff.mp found
      cases same
      simp only [List.mem_cons, forall_eq_or_imp]
      exact ⟨sound _ _ _ one, ih others⟩

/-- A reader that gives only good records, and each good one from its text, reads a text of
records back exactly where they are good. -/
theorem records_flatMap_iff {read : List α → Option (β × List α)} {print : β → List α}
    {good : β → Prop} (nonempty : ∀ item, print item ≠ [])
    (sound : ∀ text item rest, read text = some (item, rest) → good item)
    (reads : ∀ item, good item → ∀ rest, read (print item ++ rest) = some (item, rest))
    (items : List β) :
    records read (items.flatMap print) = some items ↔ ∀ item, item ∈ items → good item :=
  ⟨recordsWithin_all sound, fun all => recordsWithin_flatMap nonempty
    (fun item member => reads item (all item member)) (Nat.le_refl _)⟩

end Records

variable {α : Type} [BEq α] [LawfulBEq α]

def untilStop (stop : List α) : List α → Option (List α × List α)
  | [] => none
  | item :: rest =>
    match (item :: rest).dropPrefix? stop with
    | some after => some ([], after)
    | none => (untilStop stop rest).map fun split => (item :: split.1, split.2)

def piecesWithin (stop : List α) : Nat → List α → Option (List (List α))
  | _, [] => some []
  | 0, _ :: _ => none
  | fuel + 1, text => do
    let (piece, rest) ← untilStop stop text
    let later ← piecesWithin stop fuel rest
    some (piece :: later)

def pieces (stop text : List α) : Option (List (List α)) := piecesWithin stop text.length text

omit [BEq α] [LawfulBEq α] in
theorem infix_append {first : α} {tail front back : List α} (apart : first ∉ front)
    (found : (first :: tail) <:+: (front ++ back)) : (first :: tail) <:+: back := by
  induction front with
  | nil => exact found
  | cons item front ih =>
    simp only [List.mem_cons, not_or] at apart
    rcases List.infix_cons_iff.mp found with starts | later
    · obtain ⟨rest, same⟩ := starts
      exact absurd (List.cons.inj same).1 apart.1
    · exact ih apart.2 later

theorem dropPrefix_self (stop rest : List α) : (stop ++ rest).dropPrefix? stop = some rest :=
  List.dropPrefix?_append_of_beq rest (beq_self_eq_true stop)

theorem eq_append_of_dropPrefix {stop text rest : List α}
    (dropped : text.dropPrefix? stop = some rest) : text = stop ++ rest := by
  obtain ⟨front, same, equal⟩ := List.dropPrefix?_eq_some_iff.mp dropped
  rw [same, eq_of_beq equal]

theorem dropPrefix_piece {first item : α} {tail piece rest : List α} (unbordered : first ∉ tail)
    (free : ¬ (first :: tail) <:+: (item :: piece)) :
    (item :: piece ++ (first :: tail) ++ rest).dropPrefix? (first :: tail) = none := by
  cases dropped : (item :: piece ++ (first :: tail) ++ rest).dropPrefix? (first :: tail) with
  | none => rfl
  | some after =>
    have same := eq_append_of_dropPrefix dropped
    rw [List.append_assoc] at same
    rcases List.append_eq_append_iff.mp same with ⟨more, stop, behind⟩ | ⟨more, inside, -⟩
    · cases more with
      | nil =>
        rw [List.append_nil] at stop
        exact absurd (stop ▸ List.infix_refl _) free
      | cons next more =>
        have again : first = next := (List.cons.inj behind).1
        have member : first ∈ tail := by
          rw [(List.cons.inj stop).2, again]
          simp
        exact absurd member unbordered
    · exact absurd ⟨[], more, inside.symm⟩ free

theorem untilStop_append {first : α} {tail piece : List α} (unbordered : first ∉ tail)
    (free : ¬ (first :: tail) <:+: piece) (rest : List α) :
    untilStop (first :: tail) (piece ++ (first :: tail) ++ rest) = some (piece, rest) := by
  induction piece with
  | nil =>
    have dropped := dropPrefix_self (first :: tail) rest
    simp only [List.cons_append] at dropped
    simp only [List.nil_append, List.cons_append, untilStop, dropped]
  | cons item piece ih =>
    have later : ¬ (first :: tail) <:+: piece :=
      fun found => free (List.infix_cons found)
    have missed := @dropPrefix_piece _ _ _ first item tail piece rest unbordered free
    simp only [List.cons_append] at missed ih
    simp only [List.cons_append, untilStop, missed, ih later, Option.map_some]

theorem untilStop_spec {first : α} {tail text piece rest : List α}
    (split : untilStop (first :: tail) text = some (piece, rest)) :
    text = piece ++ (first :: tail) ++ rest ∧ ¬ (first :: tail) <:+: piece := by
  induction text generalizing piece with
  | nil => cases split
  | cons item text ih =>
    simp only [untilStop] at split
    cases dropped : (item :: text).dropPrefix? (first :: tail) with
    | some after =>
      simp only [dropped, Option.some.injEq, Prod.mk.injEq] at split
      obtain ⟨rfl, rfl⟩ := split
      exact ⟨eq_append_of_dropPrefix dropped, by simp⟩
    | none =>
      simp only [dropped] at split
      obtain ⟨⟨before, after⟩, found, same⟩ := Option.map_eq_some_iff.mp split
      cases same
      obtain ⟨rfl, free⟩ := ih found
      refine ⟨rfl, fun inside => ?_⟩
      rcases List.infix_cons_iff.mp inside with ⟨more, starts⟩ | later
      · have again : item :: (before ++ (first :: tail) ++ after) =
            (first :: tail) ++ (more ++ (first :: tail) ++ after) := by
          rw [← List.append_assoc, ← List.append_assoc, starts]
          rfl
        rw [again, dropPrefix_self] at dropped
        cases dropped
      · exact free later

omit [LawfulBEq α] in
theorem piecesWithin_eq (stop : List α) (fuel : Nat) (text : List α) :
    piecesWithin stop fuel text = recordsWithin (untilStop stop) fuel text := by
  induction fuel generalizing text with
  | zero => cases text <;> rfl
  | succ fuel ih =>
    cases text with
    | nil => rfl
    | cons item text => simp only [piecesWithin, recordsWithin, ih]

theorem piecesWithin_free {first : α} {tail text : List α} {items : List (List α)} {fuel : Nat}
    (split : piecesWithin (first :: tail) fuel text = some items) :
    ∀ piece, piece ∈ items → ¬ (first :: tail) <:+: piece := by
  rw [piecesWithin_eq] at split
  exact recordsWithin_all (fun _ _ _ found => (untilStop_spec found).2) split

/-- Pieces can be told apart again exactly where none of them contains the delimiter. -/
theorem pieces_flatMap_iff {first : α} {tail : List α} (unbordered : first ∉ tail)
    (items : List (List α)) :
    pieces (first :: tail) (items.flatMap (· ++ (first :: tail))) = some items ↔
      ∀ piece, piece ∈ items → ¬ (first :: tail) <:+: piece := by
  have nonempty (piece : List α) : piece ++ (first :: tail) ≠ [] := by simp
  rw [pieces, piecesWithin_eq]
  exact records_flatMap_iff nonempty (fun _ _ _ found => (untilStop_spec found).2)
    (fun _ free rest => untilStop_append unbordered free rest) items

omit [BEq α] [LawfulBEq α] in
theorem takeWhile_until [DecidableEq α] {stop : α} {field : List α} (rest : List α)
    (plain : stop ∉ field) :
    (field ++ stop :: rest).takeWhile (· ≠ stop) = field ∧
      (field ++ stop :: rest).dropWhile (· ≠ stop) = stop :: rest := by
  induction field with
  | nil => simp
  | cons item field ih =>
    simp only [List.mem_cons, not_or] at plain
    have differs : item ≠ stop := fun same => plain.1 same.symm
    simpa [differs] using ih plain.2

end Delimited
