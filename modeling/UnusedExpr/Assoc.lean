/-!
# Association lists and tables

An object's fields and the settings of rules are keys with values in insertion order. Writing to a key that
is present changes its value in place; writing to a new key adds it at the end. A table is such a list with
the proof that no key is in it twice.
-/

namespace UnusedExpr.Assoc

variable {α : Type}

def keys (entries : List (String × α)) : List String :=
  entries.map Prod.fst

/-- Writes `value` at `key`. -/
def put (entries : List (String × α)) (key : String) (value : α) : List (String × α) :=
  match entries with
  | [] => [(key, value)]
  | (k, v) :: rest => if k = key then (k, value) :: rest else (k, v) :: put rest key value

theorem mem_keys_put {entries : List (String × α)} {key k : String} {value : α} :
    k ∈ keys (put entries key value) ↔ k = key ∨ k ∈ keys entries := by
  induction entries with
  | nil => simp [put, keys]
  | cons entry rest ih =>
    obtain ⟨k', v'⟩ := entry
    by_cases same : k' = key
    · simp [put, keys, same]
    · simp only [put, same, if_false, keys, List.map_cons, List.mem_cons] at ih ⊢
      rw [ih]
      exact or_left_comm

/-- Writing keeps the keys distinct. -/
theorem nodup_keys_put {entries : List (String × α)} {key : String} {value : α}
    (distinct : (keys entries).Nodup) : (keys (put entries key value)).Nodup := by
  induction entries with
  | nil => simp [put, keys]
  | cons entry rest ih =>
    obtain ⟨k', v'⟩ := entry
    simp only [keys, List.map_cons, List.nodup_cons] at distinct
    by_cases same : k' = key
    · subst same
      simpa [put, keys] using distinct
    · have fresh : k' ∉ keys (put rest key value) := by
        rw [mem_keys_put]
        rintro (h | h)
        · exact same h
        · exact distinct.1 h
      simpa [put, same, keys] using ⟨by simpa [keys] using fresh, by simpa [keys] using ih distinct.2⟩

theorem mem_of_mem_put {entries : List (String × α)} {key : String} {value : α} {entry : String × α}
    (member : entry ∈ put entries key value) : entry = (key, value) ∨ entry ∈ entries := by
  induction entries with
  | nil => exact Or.inl (List.mem_singleton.mp member)
  | cons first rest ih =>
    obtain ⟨k, v⟩ := first
    by_cases same : k = key
    · subst same
      rw [put, if_pos rfl] at member
      exact (List.mem_cons.mp member).imp_right (List.mem_cons_of_mem _)
    · rw [put, if_neg same] at member
      rcases List.mem_cons.mp member with rfl | later
      · exact Or.inr List.mem_cons_self
      · exact (ih later).imp_right (List.mem_cons_of_mem _)

theorem put_of_notMem {entries : List (String × α)} {key : String} (value : α) (absent : key ∉ keys entries) :
    put entries key value = entries ++ [(key, value)] := by
  induction entries with
  | nil => rfl
  | cons entry rest ih =>
    obtain ⟨k, v⟩ := entry
    simp only [keys, List.map_cons, List.mem_cons, not_or] at absent
    rw [put, if_neg (Ne.symm absent.1), ih absent.2, List.cons_append]

theorem lookup_map {β : Type} (f : α → β) (entries : List (String × α)) (key : String) :
    (entries.map fun entry => (entry.1, f entry.2)).lookup key = (entries.lookup key).map f := by
  induction entries with
  | nil => rfl
  | cons entry rest ih =>
    obtain ⟨k, value⟩ := entry
    simp only [List.map_cons, List.lookup_cons, ih]
    cases key == k <;> rfl

theorem notMem_of_nodup {before after : List (String × α)} {entry : String × α}
    (distinct : (keys (before ++ entry :: after)).Nodup) : entry.1 ∉ keys before ∧ entry.1 ∉ keys after := by
  simp only [keys, List.map_append, List.map_cons] at distinct ⊢
  obtain ⟨-, later, apart⟩ := List.nodup_append.mp distinct
  refine ⟨?_, (List.nodup_cons.mp later).1⟩
  intro member
  exact apart _ member _ List.mem_cons_self rfl

theorem lookup_append_cons {before : List (String × α)} {key : String} (absent : key ∉ keys before) (value : α)
    (after : List (String × α)) : (before ++ (key, value) :: after).lookup key = some value := by
  have none : before.lookup key = none := by
    rw [List.lookup_eq_none_iff]
    intro entry member
    have different : key ≠ entry.1 := fun same => absent (same ▸ List.mem_map_of_mem member)
    simpa using different
  rw [List.lookup_append, none, Option.none_or, List.lookup_cons_self]

/-- A key that is present has a last place. -/
theorem exists_last_of_mem_keys {entries : List (String × α)} {key : String} (member : key ∈ keys entries) :
    ∃ before value after, entries = before ++ (key, value) :: after ∧ key ∉ keys after := by
  induction entries with
  | nil => cases member
  | cons entry rest ih =>
    by_cases later : key ∈ keys rest
    · obtain ⟨before, value, after, rfl, last⟩ := ih later
      exact ⟨entry :: before, value, after, rfl, last⟩
    · obtain rfl : key = entry.1 := (List.mem_cons.mp member).resolve_right later
      exact ⟨[], entry.2, rest, rfl, later⟩

end UnusedExpr.Assoc

namespace UnusedExpr

/-- Values by key, in insertion order and with no key twice. -/
@[ext] structure Table (α : Type) where
  entries : List (String × α)
  distinct : (Assoc.keys entries).Nodup

namespace Table

variable {α : Type}

def empty : Table α := ⟨[], List.nodup_nil⟩

@[simp] theorem entries_empty : (empty : Table α).entries = [] := rfl

def get? (t : Table α) (key : String) : Option α :=
  t.entries.lookup key

/-- Sets the value at a key, in its place if it has one and otherwise at the end. -/
def insert (t : Table α) (key : String) (value : α) : Table α :=
  ⟨Assoc.put t.entries key value, Assoc.nodup_keys_put t.distinct⟩

/-- Sets several values in turn. -/
def insertAll (t : Table α) (entries : List (String × α)) : Table α :=
  entries.foldl (fun t entry => t.insert entry.1 entry.2) t

def ofList (entries : List (String × α)) : Table α :=
  empty.insertAll entries

theorem notMem_of_split {t : Table α} {before after : List (String × α)} {entry : String × α}
    (split : t.entries = before ++ entry :: after) :
    entry.1 ∉ Assoc.keys before ∧ entry.1 ∉ Assoc.keys after :=
  Assoc.notMem_of_nodup (split ▸ t.distinct)

theorem get?_of_mem {t : Table α} {key : String} {value : α} (member : (key, value) ∈ t.entries) :
    t.get? key = some value := by
  obtain ⟨before, after, split⟩ := List.append_of_mem member
  rw [get?, split]
  exact Assoc.lookup_append_cons (notMem_of_split split).1 value after

/-- Keys that are not there yet are added at the end. -/
theorem entries_insertAll {t : Table α} (entries : List (String × α))
    (distinct : (Assoc.keys (t.entries ++ entries)).Nodup) : (t.insertAll entries).entries = t.entries ++ entries := by
  induction entries generalizing t with
  | nil => exact (List.append_nil _).symm
  | cons entry rest ih =>
    have absent : entry.1 ∉ Assoc.keys t.entries := (Assoc.notMem_of_nodup distinct).1
    have added : (t.insert entry.1 entry.2).entries = t.entries ++ [entry] := Assoc.put_of_notMem entry.2 absent
    have next := @ih (t.insert entry.1 entry.2) (by rwa [added, List.append_assoc, List.singleton_append])
    rw [added, List.append_assoc, List.singleton_append] at next
    exact next

theorem entries_ofList {entries : List (String × α)} (distinct : (Assoc.keys entries).Nodup) :
    (ofList entries).entries = entries :=
  entries_insertAll entries distinct

theorem ofList_entries (t : Table α) : ofList t.entries = t :=
  Table.ext (entries_ofList t.distinct)

end Table

end UnusedExpr
