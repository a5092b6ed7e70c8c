/-!
# Dictionaries

Texts with values, as lists of pairs.  `find?` reads one entry, `insert` keeps a list sorted by
key and `ofList` sorts any list of pairs, the last value of a key taking precedence.
-/

namespace ScopeCheck.Dictionary

variable {α β : Type}

/-- The value of a key. -/
def find? (key : String) : List (String × α) → Option α
  | [] => none
  | (k, v) :: rest => if k = key then some v else find? key rest

/-- Puts a value in its place, over an earlier one. -/
def insert (key : String) (value : α) : List (String × α) → List (String × α)
  | [] => [(key, value)]
  | (k, v) :: rest =>
    if key < k then (key, value) :: (k, v) :: rest
    else if k = key then (key, value) :: rest
    else (k, v) :: insert key value rest

/-- The sorted dictionary of a list of pairs. -/
def ofList (pairs : List (String × α)) : List (String × α) :=
  pairs.foldl (fun d p => insert p.1 p.2 d) []

/-- Removes a key. -/
def erase (key : String) (d : List (String × α)) : List (String × α) :=
  d.filter fun p => p.1 ≠ key

/-- Applies a function to every value. -/
def mapValues (f : α → β) (d : List (String × α)) : List (String × β) :=
  d.map fun p => (p.1, f p.2)

theorem find?_insert_self (key : String) (value : α) (d : List (String × α)) :
    find? key (insert key value d) = some value := by
  induction d with
  | nil => simp [insert, find?]
  | cons p rest ih =>
    obtain ⟨k, v⟩ := p
    by_cases h : key < k
    · simp [insert, h, find?]
    · by_cases e : k = key <;> simp [insert, h, e, find?, ih]

theorem mem_of_find? {key : String} {value : α} {d : List (String × α)}
    (h : find? key d = some value) : (key, value) ∈ d := by
  induction d with
  | nil => simp [find?] at h
  | cons p rest ih =>
    obtain ⟨k, v⟩ := p
    by_cases e : k = key
    · simp only [find?, e, if_true, Option.some.injEq] at h
      simp [e, h]
    · simp only [find?, e, if_false] at h
      exact List.mem_cons_of_mem _ (ih h)

/-- Puts a text into a sorted list of texts without repetition. -/
def insertKey (key : String) : List String → List String
  | [] => [key]
  | k :: rest =>
    if key < k then key :: k :: rest else if k = key then k :: rest else k :: insertKey key rest

/-- The texts of a list in ascending order, each once. -/
def sortedKeys (keys : List String) : List String := keys.foldl (fun d k => insertKey k d) []

theorem mem_insertKey {a key : String} {keys : List String} :
    a ∈ insertKey key keys ↔ a = key ∨ a ∈ keys := by
  induction keys with
  | nil => simp [insertKey]
  | cons k rest ih =>
    by_cases h : key < k
    · simp [insertKey, h]
    · by_cases e : k = key
      · subst e
        simp [insertKey]
      · simp only [insertKey, h, e, if_false, List.mem_cons, ih]
        constructor <;> rintro (x | x | x) <;> simp [x]

theorem mem_sortedKeys {a : String} {keys : List String} : a ∈ sortedKeys keys ↔ a ∈ keys := by
  have key : ∀ (xs acc : List String),
      a ∈ xs.foldl (fun d k => insertKey k d) acc ↔ a ∈ xs ∨ a ∈ acc := by
    intro xs
    induction xs with
    | nil => simp
    | cons x xs ih =>
      intro acc
      simp only [List.foldl_cons, ih, mem_insertKey, List.mem_cons]
      constructor
      · rintro (h | h | h) <;> simp [h]
      · rintro ((h | h) | h) <;> simp [h]
  simpa [sortedKeys] using key keys []

end ScopeCheck.Dictionary
