import Morphotactics.Table
import Mathlib.Data.List.Induction
import Mathlib.Data.List.Nodup

/-! Entries of a table: how they are found, and where they come from. A table collects a list of
entries if every key stands in its first place and has its last value. Entries can be left out, and
values changed, without a look at the keys. -/
namespace Morphotactics.Table

variable {α : Type} {key : Text} {value : α}

/-- In a list with distinct keys, the first entry of a key is the only one. -/
private theorem lookup_eq_some_of_mem {entries : List (Text × α)}
    (hnd : (entries.map Prod.fst).Nodup) (h : (key, value) ∈ entries) :
    entries.lookup key = some value := by
  induction entries with
  | nil => simp at h
  | cons e rest ih =>
    obtain ⟨hfresh, hrest⟩ := List.nodup_cons.mp hnd
    obtain he | he := List.mem_cons.mp h
    · subst he
      exact List.lookup_cons_self
    · have hne : (key == e.1) = false := by
        rw [beq_eq_false_iff_ne]
        rintro rfl
        exact hfresh (List.mem_map.mpr ⟨_, he, rfl⟩)
      rw [List.lookup_cons, hne]
      exact ih hrest he

theorem find?_eq_some_iff {table : Table α} :
    table.find? key = some value ↔ (key, value) ∈ table.entries := by
  refine ⟨fun h => ?_, lookup_eq_some_of_mem table.nodup⟩
  obtain ⟨before, after, hentries, -⟩ := List.lookup_eq_some_iff.mp h
  rw [hentries]
  simp

theorem mem_keys_iff {table : Table α} :
    key ∈ table.keys ↔ ∃ value, table.find? key = some value := by
  simp only [keys, List.mem_map, find?_eq_some_iff]
  constructor
  · rintro ⟨e, he, rfl⟩
    exact ⟨e.2, he⟩
  · rintro ⟨value, h⟩
    exact ⟨_, h, rfl⟩

theorem find?_eq_none_iff {table : Table α} : table.find? key = none ↔ key ∉ table.keys := by
  rw [mem_keys_iff, ← Option.isSome_iff_exists, Option.not_isSome_iff_eq_none]

theorem contains_iff {table : Table α} :
    table.contains key = true ↔ ∃ value, table.find? key = some value := by
  rw [← mem_keys_iff]
  exact List.elem_iff

theorem mem_put {entries : List (Text × α)} {e : Text × α} (h : e ∈ put key value entries) :
    e = (key, value) ∨ e ∈ entries := by
  induction entries with
  | nil => exact .inl (List.mem_singleton.mp h)
  | cons first rest ih =>
    unfold put at h
    split_ifs at h with hkey
    · exact (List.mem_cons.mp h).imp_right (List.mem_cons_of_mem _)
    · obtain rfl | h := List.mem_cons.mp h
      · exact .inr List.mem_cons_self
      · exact (ih h).imp_right (List.mem_cons_of_mem _)

theorem mem_insert {table : Table α} {e : Text × α} (h : e ∈ (table.insert key value).entries) :
    e = (key, value) ∨ e ∈ table.entries :=
  mem_put h

theorem mem_ofList {entries : List (Text × α)} {e : Text × α} (h : e ∈ (ofList entries).entries) :
    e ∈ entries := by
  suffices key : ∀ table : Table α,
      e ∈ (entries.foldl (fun table e => table.insert e.1 e.2) table).entries →
        e ∈ table.entries ∨ e ∈ entries by
    exact (key empty h).resolve_left List.not_mem_nil
  clear h
  induction entries with
  | nil => exact fun table h => .inl h
  | cons first rest ih =>
    intro table h
    obtain h | h := ih (table.insert first.1 first.2) h
    · exact (mem_insert h).elim (fun he => .inr (he ▸ List.mem_cons_self)) .inl
    · exact .inr (List.mem_cons_of_mem _ h)

theorem keys_insert (table : Table α) (key : Text) (value : α) :
    (table.insert key value).keys =
      if key ∈ table.keys then table.keys else table.keys ++ [key] :=
  keys_put key value table.entries

private theorem put_of_fresh {entries : List (Text × α)} (h : key ∉ entries.map Prod.fst) :
    put key value entries = entries ++ [(key, value)] := by
  induction entries with
  | nil => rfl
  | cons e rest ih =>
    obtain ⟨hne, hrest⟩ := not_or.mp (mt List.mem_cons.mpr h)
    rw [put, if_neg (Ne.symm hne), ih hrest, List.cons_append]

/-- A key that is new stands behind the others. -/
theorem entries_insert_of_fresh {table : Table α} (h : key ∉ table.keys) (value : α) :
    (table.insert key value).entries = table.entries ++ [(key, value)] :=
  put_of_fresh h

private theorem lookup_put (other : Text) (entries : List (Text × α)) :
    (put key value entries).lookup other =
      if other = key then some value else entries.lookup other := by
  induction entries with
  | nil =>
    rw [put, List.lookup_cons]
    by_cases h : other = key
    · rw [if_pos h, beq_iff_eq.mpr h]
    · rw [if_neg h, beq_eq_false_iff_ne.mpr h]
  | cons e rest ih =>
    by_cases he : e.1 = key
    · rw [put, if_pos he, List.lookup_cons, List.lookup_cons, he]
      by_cases h : other = key
      · rw [if_pos h, beq_iff_eq.mpr h]
      · rw [if_neg h, beq_eq_false_iff_ne.mpr h]
    · rw [put, if_neg he, List.lookup_cons, List.lookup_cons, ih]
      by_cases h : other = key
      · have hne : (other == e.1) = false := beq_eq_false_iff_ne.mpr fun hoe => he (hoe ▸ h)
        rw [hne, if_pos h]
      · rw [if_neg h, if_neg h]

theorem find?_insert (table : Table α) (key : Text) (value : α) (other : Text) :
    (table.insert key value).find? other =
      if other = key then some value else table.find? other :=
  lookup_put other table.entries

/-- Tables with the same keys in the same order, and the same values under them, are the same. -/
theorem ext_find? {a b : Table α} (hkeys : a.keys = b.keys)
    (hfind : ∀ key, a.find? key = b.find? key) : a = b := by
  have hlength : a.entries.length = b.entries.length := by
    simpa [keys] using congrArg List.length hkeys
  refine ext_entries (List.ext_getElem hlength fun i ha hb => ?_)
  have hkey : a.entries[i].1 = b.entries[i].1 := by
    have hkey := List.getElem_of_eq hkeys (by simpa [keys] using ha)
    simpa [keys] using hkey
  have hfirst : a.find? a.entries[i].1 = some a.entries[i].2 :=
    find?_eq_some_iff.mpr (List.getElem_mem ha)
  have hsecond : b.find? b.entries[i].1 = some b.entries[i].2 :=
    find?_eq_some_iff.mpr (List.getElem_mem hb)
  rw [hfind, hkey, hsecond] at hfirst
  exact Prod.ext hkey (Option.some.inj hfirst).symm

/-- The table has the keys of the entries, each in its first place and with its last value. -/
structure Collects (table : Table α) (entries : List (Text × α)) : Prop where
  keys_eq : table.keys = (entries.map Prod.fst).eraseDups
  find?_eq : ∀ key, table.find? key = entries.reverse.lookup key

theorem collects_empty : (empty : Table α).Collects [] :=
  ⟨rfl, fun _ => rfl⟩

theorem eraseDups_append_singleton (keys : List Text) (key : Text) :
    (keys ++ [key]).eraseDups =
      if key ∈ keys.eraseDups then keys.eraseDups else keys.eraseDups ++ [key] := by
  have hsingle : [key].eraseDups = [key] := rfl
  by_cases h : key ∈ keys
  · simp [List.eraseDups_append, List.removeAll, h]
  · simp [List.eraseDups_append, List.removeAll, h, hsingle]

theorem eraseDups_append_filter (first second : List Text) :
    (first ++ second).eraseDups =
      first.eraseDups ++ second.eraseDups.filter (· ∉ first.eraseDups) := by
  induction second using List.reverseRecOn with
  | nil => simp
  | append_singleton second key ih =>
    rw [← List.append_assoc, eraseDups_append_singleton, ih, eraseDups_append_singleton]
    by_cases hfirst : key ∈ first <;> by_cases hsecond : key ∈ second <;>
      simp [hfirst, hsecond]

theorem nodup_eraseDups (keys : List Text) : keys.eraseDups.Nodup := by
  induction keys using List.reverseRecOn with
  | nil => exact List.nodup_nil
  | append_singleton keys key ih =>
    rw [eraseDups_append_singleton]
    split_ifs with hkey
    · exact ih
    · exact List.nodup_append_comm.mp (List.nodup_cons.mpr ⟨hkey, ih⟩)

theorem Collects.insert {table : Table α} {entries : List (Text × α)} (h : table.Collects entries)
    (key : Text) (value : α) : (table.insert key value).Collects (entries ++ [(key, value)]) := by
  constructor
  · rw [keys_insert, h.keys_eq, List.map_append, List.map_singleton, eraseDups_append_singleton]
  · intro other
    rw [find?_insert, h.find?_eq, List.reverse_append, List.reverse_singleton,
      List.singleton_append, List.lookup_cons]
    by_cases hother : other = key
    · rw [if_pos hother, beq_iff_eq.mpr hother]
    · rw [if_neg hother, beq_eq_false_iff_ne.mpr hother]

theorem Collects.foldl {table : Table α} {done : List (Text × α)} (h : table.Collects done)
    (entries : List (Text × α)) :
    (entries.foldl (fun table e => table.insert e.1 e.2) table).Collects (done ++ entries) := by
  induction entries generalizing table done with
  | nil => simpa using h
  | cons e rest ih =>
    have hrest := ih (h.insert e.1 e.2)
    rwa [List.append_assoc, List.singleton_append] at hrest

theorem collects_ofList (entries : List (Text × α)) : (ofList entries).Collects entries :=
  collects_empty.foldl entries

/-- Later entries take the places of earlier ones with their keys, and are put behind the others. -/
theorem Collects.append {table first second : Table α} {entries more : List (Text × α)}
    (hfirst : first.Collects entries) (hsecond : second.Collects more)
    (h : table.Collects (entries ++ more)) :
    table.keys = first.keys ++ second.keys.filter (· ∉ first.keys) ∧
      ∀ key, table.find? key = (second.find? key).or (first.find? key) := by
  constructor
  · rw [h.keys_eq, List.map_append, eraseDups_append_filter, ← hfirst.keys_eq, ← hsecond.keys_eq]
  · intro key
    rw [h.find?_eq, List.reverse_append, List.lookup_append, hfirst.find?_eq, hsecond.find?_eq]

/-- What a table collects determines it. -/
theorem Collects.unique {a b : Table α} {entries : List (Text × α)} (ha : a.Collects entries)
    (hb : b.Collects entries) : a = b :=
  ext_find? (ha.keys_eq.trans hb.keys_eq.symm)
    fun key => (ha.find?_eq key).trans (hb.find?_eq key).symm

theorem Collects.mem {table : Table α} {entries : List (Text × α)} (h : table.Collects entries)
    {e : Text × α} (he : e ∈ table.entries) : e ∈ entries := by
  have hfind := find?_eq_some_iff.mpr he
  rw [h.find?_eq] at hfind
  obtain ⟨before, after, hreverse, -⟩ := List.lookup_eq_some_iff.mp hfind
  rw [← List.mem_reverse, hreverse]
  exact List.mem_append_right before List.mem_cons_self

theorem eraseDups_of_nodup {keys : List Text} (h : keys.Nodup) : keys.eraseDups = keys := by
  induction keys with
  | nil => rfl
  | cons key rest ih =>
    obtain ⟨hfresh, hrest⟩ := List.nodup_cons.mp h
    have hkeep : rest.filter (fun other => !other == key) = rest := by
      refine List.filter_eq_self.mpr fun other hother => ?_
      have hne : other ≠ key := fun heq => hfresh (heq ▸ hother)
      simpa using hne
    rw [List.eraseDups_cons, hkeep, ih hrest]

theorem collects_self (table : Table α) : table.Collects table.entries := by
  have hreverse : (table.entries.reverse.map Prod.fst).Nodup := by
    rw [List.map_reverse]
    exact List.nodup_reverse.mpr table.nodup
  refine ⟨(eraseDups_of_nodup table.nodup).symm, fun key => Option.ext fun value => ?_⟩
  rw [find?_eq_some_iff]
  constructor
  · exact fun h => lookup_eq_some_of_mem hreverse (List.mem_reverse.mpr h)
  · intro h
    obtain ⟨before, after, hentries, -⟩ := List.lookup_eq_some_iff.mp h
    rw [← List.mem_reverse, hentries]
    exact List.mem_append_right before List.mem_cons_self

/-- The entries whose values have a property. -/
def filter (table : Table α) (p : α → Bool) : Table α where
  entries := table.entries.filter fun e => p e.2
  nodup := table.nodup.sublist (List.filter_sublist.map Prod.fst)

/-- Other values under the same keys. -/
def map {β : Type} (table : Table α) (f : α → β) : Table β where
  entries := table.entries.map fun e => (e.1, f e.2)
  nodup := by
    rw [List.map_map]
    exact table.nodup

end Morphotactics.Table
