/-!
Tables by name. A name has one entry, and a later entry takes the place of an earlier one.
-/

set_option autoImplicit false
set_option relaxedAutoImplicit false

namespace BlockScope

structure NameTable (α : Type) where
  /-- The entries, the latest first. -/
  entries : List (String × α)
  deriving Repr

namespace NameTable

variable {α : Type}

def empty : NameTable α := ⟨[]⟩

def insert (table : NameTable α) (name : String) (value : α) : NameTable α :=
  ⟨(name, value) :: table.entries.filter (·.1 != name)⟩

def find? (table : NameTable α) (name : String) : Option α := table.entries.lookup name

def contains (table : NameTable α) (name : String) : Bool := (table.find? name).isSome

def ofList (pairs : List (String × α)) : NameTable α :=
  pairs.foldl (fun table pair ↦ table.insert pair.1 pair.2) empty

@[simp] theorem find?_empty (name : String) : (empty : NameTable α).find? name = none := rfl

theorem lookup_filter_ne {name other : String} (h : other ≠ name) (entries : List (String × α)) :
    (entries.filter (·.1 != name)).lookup other = entries.lookup other := by
  induction entries with
  | nil => rfl
  | cons entry rest ih =>
    obtain ⟨key, held⟩ := entry
    by_cases hkey : key = name
    · have hother : (other == name) = false := by simp [h]
      simp [hkey, List.lookup_cons, hother, ih]
    · simp [hkey, List.lookup_cons, ih]

theorem find?_insert (table : NameTable α) (name other : String) (value : α) :
    (table.insert name value).find? other =
      if other = name then some value else table.find? other := by
  by_cases h : other = name
  · simp [insert, find?, h]
  · have hbeq : (other == name) = false := by simp [h]
    simp [insert, find?, List.lookup_cons, hbeq, h, lookup_filter_ne h]

theorem find?_foldl_insert (name : String) (pairs : List (String × α)) :
    ∀ table : NameTable α,
      (pairs.foldl (fun table pair ↦ table.insert pair.1 pair.2) table).find? name =
        (pairs.reverse.lookup name).or (table.find? name) := by
  induction pairs with
  | nil =>
    intro table
    rfl
  | cons pair rest ih =>
    obtain ⟨key, value⟩ := pair
    intro table
    rw [List.foldl_cons, ih, find?_insert, List.reverse_cons, List.lookup_append, Option.or_assoc]
    by_cases h : name = key
    · simp [h]
    · have hbeq : (name == key) = false := by simp [h]
      simp [h, List.lookup_cons, hbeq]

/-- Of the pairs with a name, the last one counts. -/
theorem find?_ofList (pairs : List (String × α)) (name : String) :
    (ofList pairs).find? name = pairs.reverse.lookup name := by
  rw [ofList, find?_foldl_insert, find?_empty, Option.or_none]

theorem mem_of_find?_ofList {pairs : List (String × α)} {name : String} {value : α}
    (h : (ofList pairs).find? name = some value) : (name, value) ∈ pairs := by
  rw [find?_ofList] at h
  obtain ⟨later, earlier, hpairs, -⟩ := List.lookup_eq_some_iff.mp h
  rw [← List.mem_reverse, hpairs]
  exact List.mem_append_right later List.mem_cons_self

end NameTable

end BlockScope
