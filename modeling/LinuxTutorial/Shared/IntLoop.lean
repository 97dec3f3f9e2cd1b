import Mathlib.Data.List.Basic
import Mathlib.Data.Nat.Basic

set_option autoImplicit false

/-!
A run is what a piece of C code does, as the list of its events, and the value that it comes to.
An operation that C leaves undefined has no value, and the run stops there.
-/

namespace IntLoop

structure Run (ε α : Type) where
  events : List ε
  value : Option α

section Run

variable {ε α β : Type}

def Run.Completes (run : Run ε α) : Prop := run.value.isSome = true

def Run.bind (run : Run ε α) (next : α → Run ε β) : Run ε β :=
  match run.value with
  | none => { events := run.events, value := none }
  | some value =>
    { events := run.events ++ (next value).events, value := (next value).value }

instance : Monad (Run ε) where
  pure value := { events := [], value := some value }
  bind := Run.bind

def perform (event : ε) (value : Option α) : Run ε α := { events := [event], value := value }

@[simp] theorem pure_eq (value : α) :
    (pure value : Run ε α) = { events := [], value := some value } := rfl

@[simp] theorem bind_some (events : List ε) (value : α) (next : α → Run ε β) :
    ((Run.mk events (some value) : Run ε α) >>= next) =
      { events := events ++ (next value).events, value := (next value).value } := rfl

@[simp] theorem bind_none (events : List ε) (next : α → Run ε β) :
    ((Run.mk events none : Run ε α) >>= next) = { events := events, value := none } := rfl

theorem Run.Completes.bind {first : Run ε α} {next : α → Run ε β}
    (completes : (first >>= next).Completes) :
    ∃ value, first.value = some value ∧ (next value).Completes ∧
      (first >>= next).events = first.events ++ (next value).events := by
  obtain ⟨events, value⟩ := first
  cases value with
  | none => simp [Run.Completes] at completes
  | some value => exact ⟨value, rfl, completes, rfl⟩

theorem Run.completes_bind {first : Run ε Unit} {next : Unit → Run ε β}
    (before : first.Completes) (after : (next ()).Completes) : (first >>= next).Completes := by
  obtain ⟨events, value⟩ := first
  cases value with
  | none => cases before
  | some value => exact after

end Run

-- The operator %; the quotient of the least int and -1 is not an int.
def rem (dividend divisor : Int32) : Option Int32 :=
  if divisor = 0 ∨ dividend = Int32.minValue ∧ divisor = -1 then none
  else some (dividend % divisor)

def increment (value : Int32) : Option Int32 :=
  if value = Int32.maxValue then none else some (value + 1)

theorem toInt_ofNat {index : Nat} {bound : Int32} (inside : (index : Int) < bound.toInt) :
    (Int32.ofNat index).toInt = index := by
  have limit := bound.toInt_lt
  apply Int32.toInt_ofNat_of_lt
  omega

theorem rem_ofNat {index : Nat} {bound divisor : Int32} (inside : (index : Int) < bound.toInt)
    (nonzero : divisor ≠ 0) :
    rem (Int32.ofNat index) divisor = some (Int32.ofNat index % divisor) := by
  have least : Int32.ofNat index ≠ Int32.minValue := by
    intro same
    have value := toInt_ofNat inside
    rw [same, Int32.toInt_minValue] at value
    omega
  simp [rem, nonzero, least]

theorem mod_ofNat_eq_zero {index : Nat} {bound divisor : Int32}
    (inside : (index : Int) < bound.toInt) :
    Int32.ofNat index % divisor = 0 ↔ divisor.toInt.natAbs ∣ index := by
  rw [← Int32.toInt_inj, Int32.toInt_mod, toInt_ofNat inside, Int32.toInt_zero,
    ← Int.dvd_iff_tmod_eq_zero, Int.natAbs_dvd_natAbs.symm, Int.natAbs_natCast]

theorem increment_ofNat {index : Nat} {bound : Int32} (inside : (index : Int) < bound.toInt) :
    increment (Int32.ofNat index) = some (Int32.ofNat (index + 1)) := by
  have value := toInt_ofNat inside
  have limit := bound.toInt_lt
  have room : Int32.ofNat index ≠ Int32.maxValue := by
    intro same
    rw [same, Int32.toInt_maxValue] at value
    omega
  rw [increment, if_neg room, Int32.ofNat_add]
  rfl

theorem toInt_increment {value later : Int32} (incremented : increment value = some later) :
    later.toInt = value.toInt + 1 := by
  unfold increment at incremented
  split_ifs at incremented with last
  cases incremented
  have lower := value.le_toInt
  have upper := value.toInt_lt
  have room : value.toInt ≠ Int32.maxValue.toInt := fun same => last (Int32.toInt_inj.mp same)
  rw [Int32.toInt_maxValue] at room
  rw [Int32.toInt_add, Int32.toInt_one]
  apply Int.bmod_eq_of_le <;> omega

section Loop

variable {ε : Type} {counted : Int32 → ε} {bound : Int32} {body : Int32 → Run ε Unit}

-- for (; i < bound; ++i) body, with an event for each ++i
def forLoop (counted : Int32 → ε) (bound : Int32) (body : Int32 → Run ε Unit) (i : Int32) :
    Run ε Unit :=
  if _ : i < bound then do
    body i
    match _ : increment i with
    | none => perform (counted i) none
    | some later =>
      perform (counted i) (some ())
      forLoop counted bound body later
  else pure ()
termination_by (bound.toInt - i.toInt).toNat
decreasing_by
  rename_i inside incremented
  have next := toInt_increment incremented
  have before := Int32.lt_iff_toInt_lt.mp inside
  omega

theorem forLoop_stops {i : Int32} {events : List ε} (inside : i < bound)
    (stopped : body i = { events := events, value := none }) :
    forLoop counted bound body i = { events := events, value := none } := by
  rw [forLoop, dif_pos inside, stopped, bind_none]

theorem forLoop_ends {i : Int32} (outside : ¬ i < bound) :
    forLoop counted bound body i = { events := [], value := some () } := by
  rw [forLoop, dif_neg outside, pure_eq]

theorem forLoop_turn {index : Nat} {events : List ε} (inside : (index : Int) < bound.toInt)
    (turn : body (Int32.ofNat index) = { events := events, value := some () }) :
    forLoop counted bound body (Int32.ofNat index) =
      { events := events ++ counted (Int32.ofNat index) ::
          (forLoop counted bound body (Int32.ofNat (index + 1))).events
        value := (forLoop counted bound body (Int32.ofNat (index + 1))).value } := by
  have before : Int32.ofNat index < bound := by
    rw [Int32.lt_iff_toInt_lt, toInt_ofNat inside]
    exact inside
  rw [forLoop, dif_pos before, turn, bind_some]
  split
  next stopped => simp [increment_ofNat inside] at stopped
  next later incremented =>
    rw [increment_ofNat inside, Option.some.injEq] at incremented
    subst incremented
    rfl

-- By the turns that remain: the loop makes all of them and ends.
theorem forLoop_runs {turns : Nat → List ε} {index remaining : Nat}
    (room : (index : Int) + remaining = bound.toInt)
    (turn : ∀ other, index ≤ other → (other : Int) < bound.toInt →
      body (Int32.ofNat other) = { events := turns other, value := some () }) :
    forLoop counted bound body (Int32.ofNat index) =
      { events := (List.range' index remaining).flatMap fun other =>
          turns other ++ [counted (Int32.ofNat other)]
        value := some () } := by
  induction remaining generalizing index with
  | zero =>
    apply forLoop_ends
    have limit := bound.toInt_lt
    rw [Int32.lt_iff_toInt_lt, Int32.toInt_ofNat_of_lt (by omega)]
    omega
  | succ remaining ih =>
    have inside : (index : Int) < bound.toInt := by omega
    have rest := @ih (index + 1) (by omega) (fun other after => turn other (by omega))
    rw [forLoop_turn inside (turn index le_rfl inside), rest]
    simp [List.range'_succ]

theorem forLoop_whole {turns : Nat → List ε} {count : Nat} (whole : (count : Int) = bound.toInt)
    (turn : ∀ index, index < count →
      body (Int32.ofNat index) = { events := turns index, value := some () }) :
    forLoop counted bound body 0 =
      { events := (List.range count).flatMap fun index =>
          turns index ++ [counted (Int32.ofNat index)]
        value := some () } := by
  rw [List.range_eq_range']
  apply @forLoop_runs ε counted bound body turns 0 count
  · rw [← whole]
    simp
  · intro index _ inside
    exact turn index (by omega)

end Loop

end IntLoop
