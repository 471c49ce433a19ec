import ReleaseNotes.Text.Basic

namespace ReleaseNotes

/-! Entries under distinct keys, in the order in which the keys first came. -/

structure Table (β : Type) where
  entries : List (Text × β)
  distinct : (entries.map Prod.fst).Nodup

namespace Table

def empty : Table β := ⟨[], List.nodup_nil⟩

def keys (table : Table β) : List Text :=
  table.entries.map Prod.fst

def get? (table : Table β) (key : Text) : Option β :=
  table.entries.lookup key

def contains (table : Table β) (key : Text) : Bool :=
  (table.get? key).isSome

def putEntry (key : Text) (value : β) : List (Text × β) → List (Text × β)
  | [] => [(key, value)]
  | (k, v) :: rest =>
      if k = key then (k, value) :: rest else (k, v) :: putEntry key value rest

theorem keys_putEntry (key : Text) (value : β) (entries : List (Text × β)) :
    (putEntry key value entries).map Prod.fst =
      if key ∈ entries.map Prod.fst then entries.map Prod.fst
      else entries.map Prod.fst ++ [key] := by
  induction entries with
  | nil => simp [putEntry]
  | cons entry rest ih =>
      obtain ⟨k, v⟩ := entry
      by_cases h : k = key
      · simp [putEntry, h]
      · simp only [putEntry, h, if_false, List.map_cons, ih, List.mem_cons, Ne.symm h, false_or]
        split <;> simp

theorem nodup_putEntry {key : Text} {value : β} {entries : List (Text × β)}
    (hdistinct : (entries.map Prod.fst).Nodup) :
    ((putEntry key value entries).map Prod.fst).Nodup := by
  rw [keys_putEntry]
  split
  · exact hdistinct
  · rename_i hnew
    rw [List.nodup_append]
    refine ⟨hdistinct, by simp, ?_⟩
    intro k hk other hother
    rw [List.mem_singleton] at hother
    subst hother
    rintro rfl
    exact hnew hk

/-- A key that is there keeps its place and takes the new value. -/
def put (table : Table β) (key : Text) (value : β) : Table β :=
  ⟨putEntry key value table.entries, nodup_putEntry table.distinct⟩

def ofPairs (pairs : List (Text × β)) : Table β :=
  pairs.foldl (fun table pair => table.put pair.1 pair.2) empty

/-- The entries of one table in the order of the keys of another. -/
def arranged (table : Table β) (order : Table γ) : Table β where
  entries := order.entries.filterMap fun (key, _) =>
    (table.get? key).map fun value => (key, value)
  distinct := by
    refine List.Nodup.sublist ?_ order.distinct
    induction order.entries with
    | nil => simp
    | cons entry rest ih =>
        obtain ⟨key, other⟩ := entry
        cases h : table.get? key with
        | none => simpa [h] using ih.cons key
        | some value => simpa [h] using ih.cons_cons key

theorem lookup_putEntry (key other : Text) (value : β) (entries : List (Text × β)) :
    (putEntry key value entries).lookup other =
      if other = key then some value else entries.lookup other := by
  induction entries with
  | nil =>
      by_cases h : other = key
      · simp [putEntry, h]
      · simp [putEntry, List.lookup_cons, List.lookup_nil, beq_false_of_ne h, h]
  | cons entry rest ih =>
      obtain ⟨k, v⟩ := entry
      by_cases hk : k = key
      · subst hk
        by_cases h : other = k
        · simp [putEntry, h]
        · simp [putEntry, List.lookup_cons, beq_false_of_ne h, h]
      · by_cases h : other = k
        · subst h
          simp [putEntry, hk]
        · simp [putEntry, hk, List.lookup_cons, ih, beq_false_of_ne h]

theorem get?_put (table : Table β) (key other : Text) (value : β) :
    (table.put key value).get? other = if other = key then some value else table.get? other :=
  lookup_putEntry key other value table.entries

theorem keys_put (table : Table β) (key : Text) (value : β) :
    (table.put key value).keys =
      if key ∈ table.keys then table.keys else table.keys ++ [key] :=
  keys_putEntry key value table.entries

/-! A table is known by its keys in order and by what stands under each of them. -/

theorem eq_of_entries {table other : Table β} (h : table.entries = other.entries) :
    table = other := by
  cases table
  cases other
  cases h
  rfl

theorem contains_iff {table : Table β} {key : Text} :
    table.contains key = true ↔ key ∈ table.keys := by
  rw [contains, get?, List.lookup_isSome_iff, keys, List.mem_map]
  constructor
  · rintro ⟨entry, hentry, hkey⟩
    exact ⟨entry, hentry, (eq_of_beq hkey).symm⟩
  · rintro ⟨entry, hentry, rfl⟩
    exact ⟨entry, hentry, BEq.rfl⟩

theorem mem_entries_of_get? {table : Table β} {key : Text} {value : β}
    (h : table.get? key = some value) : (key, value) ∈ table.entries := by
  obtain ⟨before, after, hentries, _⟩ := List.lookup_eq_some_iff.mp h
  rw [hentries]
  exact List.mem_append_right before List.mem_cons_self

theorem lookup_of_mem {entries : List (Text × β)} {key : Text} {value : β}
    (hdistinct : (entries.map Prod.fst).Nodup) (h : (key, value) ∈ entries) :
    entries.lookup key = some value := by
  obtain ⟨before, after, rfl⟩ := List.append_of_mem h
  refine List.lookup_eq_some_iff.mpr ⟨before, after, rfl, fun entry hentry => ?_⟩
  rw [List.map_append, List.nodup_append] at hdistinct
  have hne : entry.1 ≠ key :=
    hdistinct.2.2 _ (List.mem_map_of_mem hentry) _ (List.mem_map_of_mem List.mem_cons_self)
  exact bne_iff_ne.mpr hne.symm

theorem get?_eq_some_iff {table : Table β} {key : Text} {value : β} :
    table.get? key = some value ↔ (key, value) ∈ table.entries :=
  ⟨mem_entries_of_get?, lookup_of_mem table.distinct⟩

theorem get?_eq_none_iff {table : Table β} {key : Text} :
    table.get? key = none ↔ key ∉ table.keys := by
  rw [← contains_iff, contains, Option.not_isSome_iff_eq_none]

theorem putEntry_of_fresh {entries : List (Text × β)} {key : Text}
    (h : key ∉ entries.map Prod.fst) (value : β) :
    putEntry key value entries = entries ++ [(key, value)] := by
  induction entries with
  | nil => rfl
  | cons entry entries ih =>
      obtain ⟨k, v⟩ := entry
      rw [List.map_cons, List.mem_cons, not_or] at h
      rw [putEntry, if_neg (Ne.symm h.1), ih h.2, List.cons_append]

theorem entries_put_of_fresh {table : Table β} {key : Text} (h : key ∉ table.keys) (value : β) :
    (table.put key value).entries = table.entries ++ [(key, value)] :=
  putEntry_of_fresh h value

theorem entries_eq_map_lookup (other : β) {entries : List (Text × β)}
    (hdistinct : (entries.map Prod.fst).Nodup) :
    entries = (entries.map Prod.fst).map fun key => (key, (entries.lookup key).getD other) := by
  induction entries with
  | nil => rfl
  | cons entry entries ih =>
      obtain ⟨k, value⟩ := entry
      rw [List.map_cons, List.nodup_cons] at hdistinct
      obtain ⟨hfresh, hdistinct⟩ := hdistinct
      have hrest : (entries.map Prod.fst).map (fun key =>
          (key, (((k, value) :: entries).lookup key).getD other)) =
          (entries.map Prod.fst).map fun key => (key, (entries.lookup key).getD other) := by
        apply List.map_congr_left
        intro key hkey
        have hne : key ≠ k := fun h => hfresh (h ▸ hkey)
        rw [List.lookup_cons, beq_false_of_ne hne]
      rw [List.map_cons, List.map_cons, hrest, ← ih hdistinct]
      simp

theorem entries_eq_map (table : Table β) (other : β) :
    table.entries = table.keys.map fun key => (key, (table.get? key).getD other) :=
  entries_eq_map_lookup other table.distinct

theorem entries_arranged (table : Table β) (order : Table γ) (other : β) :
    (table.arranged order).entries =
      (order.keys.filter fun key => table.contains key).map fun key =>
        (key, (table.get? key).getD other) := by
  show order.entries.filterMap _ = ((order.entries.map Prod.fst).filter _).map _
  induction order.entries with
  | nil => rfl
  | cons entry entries ih =>
      obtain ⟨key, _⟩ := entry
      cases h : table.get? key with
      | none => simpa [h, contains] using ih
      | some value => simpa [h, contains] using ih

end Table

end ReleaseNotes
