/-!
# Slots that are mostly empty

A `Table` keeps what has been put at its keys. `Slots` are numbered places of which only those that
have been filled take room, so a collection may be as large as a 64-bit word says. Main statements:
what is read after a write (`Table.get?_put`, `Slots.get?_put`), and that a write never changes the
number of places.
-/

namespace RunControl

/-- What has been put at keys, each key at most once; the latest comes first. -/
structure Table (κ α : Type) where
  entries : List (κ × α)
deriving DecidableEq

namespace Table

variable {κ α β : Type}

def empty : Table κ α := ⟨[]⟩

/-- Change everything that has been put somewhere. -/
def map (f : α → β) (t : Table κ α) : Table κ β := ⟨t.entries.map fun e => (e.1, f e.2)⟩

variable [DecidableEq κ]

def get? (t : Table κ α) (k : κ) : Option α := t.entries.lookup k

/-- Put something at a key, in place of what is there. -/
def put (t : Table κ α) (k : κ) (a : α) : Table κ α :=
  ⟨(k, a) :: t.entries.filter fun e => e.1 ≠ k⟩

@[simp] theorem get?_empty (k : κ) : (empty : Table κ α).get? k = none := rfl

theorem lookup_filter_ne (entries : List (κ × α)) {k j : κ} (h : j ≠ k) :
    (entries.filter fun e => e.1 ≠ k).lookup j = entries.lookup j := by
  induction entries with
  | nil => rfl
  | cons e rest ih => by_cases hk : e.1 = k <;> by_cases hj : j = e.1 <;> grind

theorem get?_put (t : Table κ α) (k j : κ) (a : α) :
    (t.put k a).get? j = if j = k then some a else t.get? j := by
  by_cases h : j = k
  · simp [get?, put, h]
  · simp only [get?, put, List.lookup_cons, beq_eq_false_iff_ne.2 h, lookup_filter_ne _ h, h,
      if_false]

theorem get?_map (f : α → β) (t : Table κ α) (k : κ) : (t.map f).get? k = (t.get? k).map f := by
  obtain ⟨entries⟩ := t
  induction entries with
  | nil => rfl
  | cons e rest ih =>
    obtain ⟨j, a⟩ := e
    simp only [get?, map, List.map_cons, List.lookup_cons] at ih ⊢
    cases k == j <;> simp [ih]

end Table

/-- So many numbered places, and what is in those that have been filled. -/
structure Slots (α : Type) where
  size : Nat
  filled : Table Nat α
deriving DecidableEq

namespace Slots

variable {α β : Type}

def vacant (size : Nat) : Slots α := ⟨size, Table.empty⟩

def get? (s : Slots α) (i : Nat) : Option α := s.filled.get? i

def put (s : Slots α) (i : Nat) (a : α) : Slots α :=
  if i < s.size then { s with filled := s.filled.put i a } else s

/-- Change what is in a place, if it has been filled. -/
def modify (s : Slots α) (i : Nat) (f : α → α) : Slots α :=
  match s.get? i with
  | some a => s.put i (f a)
  | none => s

/-- Change what is in every place that has been filled. -/
def map (f : α → β) (s : Slots α) : Slots β := ⟨s.size, s.filled.map f⟩

@[simp] theorem get?_vacant (size i : Nat) : (vacant size : Slots α).get? i = none := rfl

@[simp] theorem size_vacant (size : Nat) : (vacant size : Slots α).size = size := rfl

@[simp] theorem size_map (f : α → β) (s : Slots α) : (s.map f).size = s.size := rfl

@[simp] theorem size_put (s : Slots α) (i : Nat) (a : α) : (s.put i a).size = s.size := by
  unfold put; split <;> rfl

@[simp] theorem size_modify (s : Slots α) (i : Nat) (f : α → α) :
    (s.modify i f).size = s.size := by
  unfold modify; split <;> simp

theorem put_of_le {s : Slots α} {i : Nat} (h : s.size ≤ i) (a : α) : s.put i a = s :=
  if_neg (Nat.not_lt.2 h)

theorem get?_put (s : Slots α) (i j : Nat) (a : α) :
    (s.put i a).get? j = if i < s.size ∧ j = i then some a else s.get? j := by
  by_cases h : i < s.size <;> simp [get?, put, h, Table.get?_put]

theorem get?_modify (s : Slots α) (i j : Nat) (f : α → α) :
    (s.modify i f).get? j = if i < s.size ∧ j = i then (s.get? j).map f else s.get? j := by
  unfold modify
  split
  · next a h =>
    rw [get?_put]
    split
    · next hj => rw [hj.2, h, Option.map_some]
    · rfl
  · next h =>
    split
    · next hj => rw [hj.2, h, Option.map_none]
    · rfl

theorem get?_map (f : α → β) (s : Slots α) (i : Nat) : (s.map f).get? i = (s.get? i).map f :=
  Table.get?_map f s.filled i

end Slots

end RunControl
