import Mathlib.Data.List.Basic

set_option autoImplicit false

namespace DescriptorTable

universe u

abbrev Table (File : Type u) := List (Option File)

variable {File : Type u}

def lookup (table : Table File) (fd : Nat) : Option File := (table[fd]?).join

def lowest : Table File → Nat
  | [] => 0
  | none :: _ => 0
  | some _ :: rest => lowest rest + 1

def allocate (file : File) : Table File → Table File
  | [] => [some file]
  | none :: rest => some file :: rest
  | some taken :: rest => some taken :: allocate file rest

def close (table : Table File) (fd : Nat) : Table File := table.set fd none

@[simp] theorem lookup_nil (fd : Nat) : lookup ([] : Table File) fd = none := rfl

@[simp] theorem lookup_cons_zero (entry : Option File) (rest : Table File) :
    lookup (entry :: rest) 0 = entry := rfl

@[simp] theorem lookup_cons_succ (entry : Option File) (rest : Table File) (fd : Nat) :
    lookup (entry :: rest) (fd + 1) = lookup rest fd := rfl

theorem lookup_lowest (table : Table File) : lookup table (lowest table) = none := by
  induction table with
  | nil => rfl
  | cons entry rest ih =>
    cases entry with
    | none => rfl
    | some taken => exact ih

theorem lowest_eq_zero {table : Table File} (free : lookup table 0 = none) : lowest table = 0 := by
  cases table with
  | nil => rfl
  | cons entry rest =>
    cases entry with
    | none => rfl
    | some taken => cases free

theorem lookup_allocate (file : File) (table : Table File) (fd : Nat) :
    lookup (allocate file table) fd =
      if fd = lowest table then some file else lookup table fd := by
  induction table generalizing fd with
  | nil => cases fd <;> simp [allocate, lowest]
  | cons entry rest ih =>
    cases entry with
    | none => cases fd <;> simp [allocate, lowest]
    | some taken => cases fd <;> simp [allocate, lowest, ih]

theorem lookup_close (table : Table File) (fd other : Nat) :
    lookup (close table fd) other = if other = fd then none else lookup table other := by
  unfold lookup close
  rw [List.getElem?_set]
  by_cases same : fd = other
  · subst same
    split_ifs <;> simp_all
  · have different : other ≠ fd := fun equal => same equal.symm
    simp [same, different]

end DescriptorTable
