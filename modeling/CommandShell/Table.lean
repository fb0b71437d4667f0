/-! # Tables

A table holds one entry for each name and remembers the order in which the names first came. -/

namespace CommandShell

/-- Entries by name, in the order in which their names first came. -/
abbrev Table (α : Type) := List (String × α)

namespace Table

variable {α : Type}

/-- The entry at a name. -/
def get? (name : String) : Table α → Option α
  | [] => none
  | (n, a) :: rest => if n = name then some a else get? name rest

/-- A new name goes to the end, a known one keeps its place. -/
def put (name : String) (entry : α) : Table α → Table α
  | [] => [(name, entry)]
  | (n, a) :: rest => if n = name then (n, entry) :: rest else (n, a) :: put name entry rest

/-- The names in order. -/
def names (t : Table α) : List String := t.map (·.1)

/-- The table has an entry at the name. -/
def has (name : String) (t : Table α) : Bool := (get? name t).isSome

/-- The entries in order, each name at its first place with its last entry. -/
def ofList (entries : List (String × α)) : Table α :=
  entries.foldl (fun t e => put e.1 e.2 t) []

@[simp] theorem get?_put_self (t : Table α) (name : String) (a : α) :
    get? name (put name a t) = some a := by
  induction t with
  | nil => simp [put, get?]
  | cons e rest ih =>
    obtain ⟨n, b⟩ := e
    by_cases h : n = name <;> simp [put, get?, h, ih]

theorem get?_put_of_ne (t : Table α) {name other : String} (a : α) (h : other ≠ name) :
    get? other (put name a t) = get? other t := by
  induction t with
  | nil => simp [put, get?, Ne.symm h]
  | cons e rest ih =>
    obtain ⟨n, b⟩ := e
    by_cases hn : n = name
    · subst hn
      simp [put, get?, Ne.symm h]
    · by_cases ho : n = other
      · simp [put, get?, ho, h]
      · simp [put, get?, hn, ho, ih]

theorem has_iff_mem_names (t : Table α) (name : String) : has name t = true ↔ name ∈ names t := by
  induction t with
  | nil => simp [has, get?, names]
  | cons e rest ih =>
    obtain ⟨n, b⟩ := e
    simp only [has, names] at ih
    by_cases h : n = name
    · simp [has, get?, names, h]
    · simp [has, get?, names, h, ih, Ne.symm h]

end Table

end CommandShell
