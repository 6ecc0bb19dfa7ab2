/-!
# Keyed tables

A table holds at most one value under each key, in the order in which the keys first came.

* `Table.get?` looks a key up, `Table.put` puts a value under a key in place of the one there, and
  `Table.push` puts a value at the end of the group under a key.
* The lemmas `get?_put` and `group_push` say what each of them does to every key.
-/

namespace MoveRating

/-- A table of values under keys. -/
structure Table (κ ν : Type) where
  /-- The keys and their values. -/
  entries : List (κ × ν)
deriving Repr

namespace Table

variable {κ ν : Type} [DecidableEq κ]

/-- The table without entries. -/
def empty : Table κ ν := ⟨[]⟩

/-- The first value under a key in a list of entries. -/
def find? (k : κ) : List (κ × ν) → Option ν
  | [] => none
  | (k', v) :: rest => if k' = k then some v else find? k rest

/-- The entries with `v` under `k`. -/
def insert (k : κ) (v : ν) : List (κ × ν) → List (κ × ν)
  | [] => [(k, v)]
  | (k', v') :: rest => if k' = k then (k, v) :: rest else (k', v') :: insert k v rest

/-- The value under a key. -/
def get? (t : Table κ ν) (k : κ) : Option ν := find? k t.entries

/-- The table with `v` under `k` and all else as it was. -/
def put (t : Table κ ν) (k : κ) (v : ν) : Table κ ν := ⟨insert k v t.entries⟩

/-- The values grouped under a key; a key that never came has none. -/
def group (t : Table κ (List ν)) (k : κ) : List ν := (t.get? k).getD []

/-- The table with `v` at the end of the group under `k`. -/
def push (t : Table κ (List ν)) (k : κ) (v : ν) : Table κ (List ν) := t.put k (t.group k ++ [v])

@[simp] theorem get?_empty (k : κ) : (empty : Table κ ν).get? k = none := rfl

@[simp] theorem group_empty (k : κ) : (empty : Table κ (List ν)).group k = [] := rfl

theorem find?_insert (k j : κ) (v : ν) (entries : List (κ × ν)) :
    find? j (insert k v entries) = if k = j then some v else find? j entries := by
  induction entries with
  | nil => rfl
  | cons e rest ih =>
    obtain ⟨k', v'⟩ := e
    by_cases hk : k' = k
    · subst hk
      simp only [insert, ↓reduceIte, find?]
      split <;> rfl
    · simp only [insert, hk, ↓reduceIte, find?, ih]
      by_cases hj : k' = j
      · subst hj
        simp [Ne.symm hk]
      · simp [hj]

/-- Putting a value under a key changes the value under that key alone. -/
theorem get?_put (t : Table κ ν) (k j : κ) (v : ν) :
    (t.put k v).get? j = if k = j then some v else t.get? j := find?_insert k j v t.entries

/-- Pushing a value lengthens the group under its key alone. -/
theorem group_push (t : Table κ (List ν)) (k j : κ) (v : ν) :
    (t.push k v).group j = if k = j then t.group j ++ [v] else t.group j := by
  unfold push group
  rw [get?_put]
  split
  · next h => rw [← h]; rfl
  · rfl

end Table

end MoveRating
