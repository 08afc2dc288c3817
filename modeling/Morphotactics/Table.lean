import Morphotactics.Text

/-! Tables that keep the order in which their keys came. -/
namespace Morphotactics

/-- Entries with distinct keys. -/
structure Table (α : Type) where
  entries : List (Text × α)
  nodup : (entries.map Prod.fst).Nodup

namespace Table

variable {α : Type}

/-- Puts an entry at the end, or in the place of the entry with the same key. -/
def put (key : Text) (value : α) : List (Text × α) → List (Text × α)
  | [] => [(key, value)]
  | e :: rest => if e.1 = key then (key, value) :: rest else e :: put key value rest

theorem keys_put (key : Text) (value : α) (entries : List (Text × α)) :
    (put key value entries).map Prod.fst =
      if key ∈ entries.map Prod.fst then entries.map Prod.fst
      else entries.map Prod.fst ++ [key] := by
  induction entries with
  | nil => simp [put]
  | cons e rest ih =>
    by_cases h : e.1 = key
    · simp [put, h]
    · have h' : ¬ key = e.1 := fun hk => h hk.symm
      simp only [put, h, if_false, List.map_cons, ih, List.mem_cons, h', false_or]
      split <;> simp

def empty : Table α := ⟨[], List.nodup_nil⟩

/-- A key that comes again keeps its place and takes the later value. -/
def insert (table : Table α) (key : Text) (value : α) : Table α where
  entries := put key value table.entries
  nodup := by
    rw [keys_put]
    split
    · exact table.nodup
    · rename_i h
      exact List.nodup_append.mpr ⟨table.nodup, by simp, by
        intro a ha b hb hab
        simp only [List.mem_singleton] at hb
        exact h (hb ▸ hab ▸ ha)⟩

def ofList (entries : List (Text × α)) : Table α :=
  entries.foldl (fun table e => table.insert e.1 e.2) empty

def keys (table : Table α) : List Text :=
  table.entries.map Prod.fst

def values (table : Table α) : List α :=
  table.entries.map Prod.snd

def size (table : Table α) : Nat :=
  table.entries.length

def find? (table : Table α) (key : Text) : Option α :=
  table.entries.lookup key

def contains (table : Table α) (key : Text) : Bool :=
  table.keys.elem key

theorem ext_entries {a b : Table α} (h : a.entries = b.entries) : a = b := by
  cases a
  cases b
  cases h
  rfl

instance [DecidableEq α] : DecidableEq (Table α) := fun a b =>
  decidable_of_iff (a.entries = b.entries) ⟨ext_entries, fun h => h ▸ rfl⟩

end Table
end Morphotactics
