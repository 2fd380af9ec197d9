/-!
# Maps from names

A map holds each name at most once and remembers the order in which names were first given.
The functions on association lists come first, for keys of any kind, since nested tables and
registries are made of them; the map itself carries the proof that its names are distinct.
-/

namespace LayeredConfig

namespace Entries

variable {κ α : Type}

/-- The keys of the entries. -/
def keys (entries : List (κ × α)) : List κ :=
  entries.map Prod.fst

variable [DecidableEq κ]

/-- The value of the first entry with the key. -/
def find? (key : κ) : List (κ × α) → Option α
  | [] => none
  | (other, value) :: rest => if key = other then some value else find? key rest

/-- Gives the key a value, in the place of its first entry or at the end. -/
def insert (key : κ) (value : α) : List (κ × α) → List (κ × α)
  | [] => [(key, value)]
  | (other, previous) :: rest =>
    if key = other then (key, value) :: rest
    else (other, previous) :: insert key value rest

def erase (key : κ) (entries : List (κ × α)) : List (κ × α) :=
  entries.filter fun entry => entry.1 ≠ key

theorem find?_insert_self (key : κ) (value : α) (entries : List (κ × α)) :
    find? key (insert key value entries) = some value := by
  induction entries with
  | nil => simp [insert, find?]
  | cons entry rest ih =>
      by_cases h : key = entry.1 <;> simp [insert, find?, h, ih]

theorem find?_insert_of_ne {key other : κ} (h : other ≠ key) (value : α)
    (entries : List (κ × α)) :
    find? other (insert key value entries) = find? other entries := by
  induction entries with
  | nil => simp [insert, find?, h]
  | cons entry rest ih =>
      by_cases hn : key = entry.1
      · simp [insert, find?, ← hn, h]
      · simp [insert, find?, hn, ih]

theorem find?_insert (key other : κ) (value : α) (entries : List (κ × α)) :
    find? other (insert key value entries) =
      if other = key then some value else find? other entries := by
  by_cases h : other = key
  · subst h
    simp [find?_insert_self]
  · simp [h, find?_insert_of_ne h]

theorem find?_erase (key other : κ) (entries : List (κ × α)) :
    find? other (erase key entries) =
      if other = key then none else find? other entries := by
  induction entries with
  | nil => simp [erase, find?]
  | cons entry rest ih =>
      simp only [erase] at ih
      by_cases hn : entry.1 = key <;> by_cases ho : other = entry.1 <;>
        simp_all [erase, find?]

theorem mem_keys_insert {key other : κ} {value : α} {entries : List (κ × α)} :
    other ∈ keys (insert key value entries) ↔ other = key ∨ other ∈ keys entries := by
  induction entries with
  | nil => simp [insert, keys]
  | cons entry rest ih =>
      by_cases h : key = entry.1
      · simp [insert, keys, h]
      · simp only [keys] at ih
        simp only [insert, h, keys, if_false, List.map_cons, List.mem_cons, ih]
        grind

theorem nodup_insert {key : κ} {value : α} {entries : List (κ × α)}
    (h : (keys entries).Nodup) : (keys (insert key value entries)).Nodup := by
  induction entries with
  | nil => simp [insert, keys]
  | cons entry rest ih =>
      have tail : (keys rest).Nodup := (List.nodup_cons.mp h).2
      have fresh : entry.1 ∉ keys rest := (List.nodup_cons.mp h).1
      by_cases hn : key = entry.1
      · simp only [insert, hn, if_true]
        exact List.nodup_cons.mpr ⟨fresh, tail⟩
      · simp only [insert, hn, if_false]
        refine List.nodup_cons.mpr ⟨?_, ih tail⟩
        intro member
        rcases mem_keys_insert.mp member with same | old
        · exact hn same.symm
        · exact fresh old

/-- A new key goes to the end. -/
theorem insert_of_not_mem {key : κ} {value : α} {entries : List (κ × α)}
    (fresh : key ∉ keys entries) : insert key value entries = entries ++ [(key, value)] := by
  induction entries with
  | nil => rfl
  | cons entry rest ih =>
      rw [keys, List.map_cons, List.mem_cons, not_or] at fresh
      rw [insert, if_neg fresh.1, ih fresh.2, List.cons_append]

/-- A known key keeps its place. -/
theorem insert_append_cons {key : κ} {value previous : α} {before after : List (κ × α)}
    (fresh : key ∉ keys before) :
    insert key value (before ++ (key, previous) :: after) = before ++ (key, value) :: after := by
  induction before with
  | nil => rw [List.nil_append, insert, if_pos rfl, List.nil_append]
  | cons entry rest ih =>
      rw [keys, List.map_cons, List.mem_cons, not_or] at fresh
      rw [List.cons_append, insert, if_neg fresh.1, ih fresh.2, List.cons_append]

theorem nodup_erase {key : κ} {entries : List (κ × α)}
    (h : (keys entries).Nodup) : (keys (erase key entries)).Nodup :=
  h.sublist (List.filter_sublist.map Prod.fst)

theorem find?_isSome {key : κ} {entries : List (κ × α)} :
    (find? key entries).isSome ↔ key ∈ keys entries := by
  induction entries with
  | nil => simp [find?, keys]
  | cons entry rest ih =>
      by_cases h : key = entry.1
      · simp [find?, keys, h]
      · simp only [keys] at ih
        simp [find?, keys, h, ih]

theorem find?_append (key : κ) (first second : List (κ × α)) :
    find? key (first ++ second) = (find? key first).or (find? key second) := by
  induction first with
  | nil => rfl
  | cons entry rest ih =>
      by_cases h : key = entry.1
      · simp [find?, h]
      · simp [find?, h, ih]

/-- An entry is found where no entry before it has its key. -/
theorem find?_eq_some_iff_split {key : κ} {value : α} {entries : List (κ × α)} :
    find? key entries = some value ↔
      ∃ before after, entries = before ++ (key, value) :: after ∧ key ∉ keys before := by
  induction entries with
  | nil => simp [find?]
  | cons entry rest ih =>
      obtain ⟨other, previous⟩ := entry
      rw [find?]
      by_cases same : key = other
      · subst same
        rw [if_pos rfl]
        constructor
        · rintro ⟨⟩
          exact ⟨[], rest, rfl, List.not_mem_nil⟩
        · rintro ⟨before, after, split, first⟩
          cases before with
          | nil => rw [(Prod.mk.inj (List.cons.inj split).1).2]
          | cons entry before =>
              obtain ⟨rfl, -⟩ := List.cons.inj split
              exact absurd List.mem_cons_self first
      · rw [if_neg same, ih]
        constructor
        · rintro ⟨before, after, rfl, first⟩
          refine ⟨(other, previous) :: before, after, rfl, ?_⟩
          rw [keys, List.map_cons, List.mem_cons, not_or]
          exact ⟨same, first⟩
        · rintro ⟨before, after, split, first⟩
          cases before with
          | nil => exact absurd (Prod.mk.inj (List.cons.inj split).1).1.symm same
          | cons entry before =>
              obtain ⟨rfl, tail⟩ := List.cons.inj split
              exact ⟨before, after, tail, fun member => first (List.mem_cons_of_mem _ member)⟩

/-- In a search from the end, an entry is found where no entry after it has its key. -/
theorem find?_reverse_eq_some_iff {key : κ} {value : α} {entries : List (κ × α)} :
    find? key entries.reverse = some value ↔
      ∃ before after, entries = before ++ (key, value) :: after ∧ key ∉ keys after := by
  have turned (items : List (κ × α)) : key ∈ keys items.reverse ↔ key ∈ keys items := by
    rw [keys, List.map_reverse, List.mem_reverse, keys]
  rw [find?_eq_some_iff_split]
  constructor
  · rintro ⟨before, after, split, first⟩
    refine ⟨after.reverse, before.reverse, ?_, mt (turned before).mp first⟩
    rw [← List.reverse_reverse entries, split]
    simp
  · rintro ⟨before, after, rfl, last⟩
    exact ⟨after.reverse, before.reverse, by simp, mt (turned after).mp last⟩

/-- Where keys are distinct, an entry is found under its key. -/
theorem find?_eq_some_iff {key : κ} {value : α} {entries : List (κ × α)}
    (distinct : (keys entries).Nodup) :
    find? key entries = some value ↔ (key, value) ∈ entries := by
  induction entries with
  | nil => simp [find?]
  | cons entry rest ih =>
      have tail : (keys rest).Nodup := (List.nodup_cons.mp distinct).2
      have fresh : entry.1 ∉ keys rest := (List.nodup_cons.mp distinct).1
      by_cases h : key = entry.1
      · subst h
        have absent : (entry.1, value) ∉ rest := fun member =>
          fresh (List.mem_map.mpr ⟨_, member, rfl⟩)
        simp [find?, absent, Prod.ext_iff, eq_comm]
      · simp [find?, h, ih tail, Prod.ext_iff]

end Entries

/-! ## Maps -/

variable {α : Type}

structure NameMap (α : Type) where
  entries : List (String × α)
  distinct : (Entries.keys entries).Nodup

namespace NameMap

def empty : NameMap α where
  entries := []
  distinct := List.nodup_nil

instance : Inhabited (NameMap α) := ⟨empty⟩

def find? (map : NameMap α) (name : String) : Option α :=
  Entries.find? name map.entries

def insert (map : NameMap α) (name : String) (value : α) : NameMap α where
  entries := Entries.insert name value map.entries
  distinct := Entries.nodup_insert map.distinct

def erase (map : NameMap α) (name : String) : NameMap α where
  entries := Entries.erase name map.entries
  distinct := Entries.nodup_erase map.distinct

def names (map : NameMap α) : List String :=
  Entries.keys map.entries

/-- The map of a list of pairs, in which the last pair of a name counts. -/
def ofList (pairs : List (String × α)) : NameMap α :=
  pairs.foldl (fun map pair => map.insert pair.1 pair.2) empty

@[simp] theorem find?_empty (name : String) : (empty : NameMap α).find? name = none := rfl

theorem find?_insert (map : NameMap α) (name other : String) (value : α) :
    (map.insert name value).find? other =
      if other = name then some value else map.find? other :=
  Entries.find?_insert name other value map.entries

theorem find?_erase (map : NameMap α) (name other : String) :
    (map.erase name).find? other = if other = name then none else map.find? other :=
  Entries.find?_erase name other map.entries

theorem find?_isSome {map : NameMap α} {name : String} :
    (map.find? name).isSome ↔ name ∈ map.names :=
  Entries.find?_isSome

/-- Pairs that are inserted one after the other go before what was there, the last first. -/
theorem find?_foldl_insert (pairs : List (String × α)) (map : NameMap α) (name : String) :
    (pairs.foldl (fun map pair => map.insert pair.1 pair.2) map).find? name =
      (Entries.find? name pairs.reverse).or (map.find? name) := by
  induction pairs generalizing map with
  | nil => rfl
  | cons pair rest ih =>
      rw [List.foldl_cons, ih, find?_insert, List.reverse_cons, Entries.find?_append]
      by_cases h : name = pair.1
      · cases Entries.find? name rest.reverse <;> simp [Entries.find?, h]
      · cases Entries.find? name rest.reverse <;> simp [Entries.find?, h]

/-- The last pair of a name counts. -/
theorem find?_ofList (pairs : List (String × α)) (name : String) :
    (ofList pairs).find? name = Entries.find? name pairs.reverse := by
  rw [ofList, find?_foldl_insert, find?_empty, Option.or_none]

/-- Further pairs go before what was there. -/
theorem find?_ofList_append (pairs further : List (String × α)) (name : String) :
    (ofList (pairs ++ further)).find? name =
      ((ofList further).find? name).or ((ofList pairs).find? name) := by
  rw [find?_ofList, find?_ofList, find?_ofList, List.reverse_append, Entries.find?_append]

theorem find?_ofList_eq_some_iff {pairs : List (String × α)} {name : String} {value : α} :
    (ofList pairs).find? name = some value ↔
      ∃ before after,
        pairs = before ++ (name, value) :: after ∧ name ∉ Entries.keys after := by
  rw [find?_ofList, Entries.find?_reverse_eq_some_iff]

/-- Pairs of distinct names are the entries of their map. -/
theorem entries_ofList {pairs : List (String × α)} (distinct : (Entries.keys pairs).Nodup) :
    (ofList pairs).entries = pairs := by
  have general (map : NameMap α) (apart : (Entries.keys (map.entries ++ pairs)).Nodup) :
      (pairs.foldl (fun map pair => map.insert pair.1 pair.2) map).entries =
        map.entries ++ pairs := by
    clear distinct
    induction pairs generalizing map with
    | nil => rw [List.foldl_nil, List.append_nil]
    | cons pair rest ih =>
        have fresh : pair.1 ∉ Entries.keys map.entries := by
          intro member
          rw [Entries.keys, List.map_append, List.map_cons] at apart
          exact (List.nodup_append.mp apart).2.2 _ member _ List.mem_cons_self rfl
        have next : (map.insert pair.1 pair.2).entries = map.entries ++ [pair] :=
          Entries.insert_of_not_mem fresh
        rw [List.foldl_cons, ih, next, List.append_assoc, List.singleton_append]
        rwa [next, List.append_assoc, List.singleton_append]
  exact general empty distinct

theorem ofList_singleton_inj {name other : String} {value another : α} :
    ofList [(name, value)] = ofList [(other, another)] ↔ name = other ∧ value = another := by
  constructor
  · intro same
    have entries : [(name, value)] = [(other, another)] := congrArg NameMap.entries same
    exact Prod.mk.inj (List.cons.inj entries).1
  · rintro ⟨rfl, rfl⟩
    rfl

theorem mem_entries_iff {map : NameMap α} {name : String} {value : α} :
    (name, value) ∈ map.entries ↔ map.find? name = some value :=
  (Entries.find?_eq_some_iff map.distinct).symm

/-- The names and values that satisfy a partial map of the values. -/
def filterMap {β : Type} (f : α → Option β) (map : NameMap α) : NameMap β where
  entries := map.entries.filterMap fun entry => (f entry.2).map fun value => (entry.1, value)
  distinct := by
    refine map.distinct.sublist ?_
    simp only [Entries.keys]
    induction map.entries with
    | nil => simp
    | cons entry rest ih =>
        cases h : f entry.2 with
        | none => simpa [h] using ih.trans (List.sublist_cons_self _ _)
        | some value => simpa [h] using ih

theorem find?_filterMap {β : Type} (f : α → Option β) (map : NameMap α) (name : String) :
    (map.filterMap f).find? name = (map.find? name).bind f := by
  apply Option.ext
  intro value
  have member : (name, value) ∈ (map.filterMap f).entries ↔
      ∃ original, (name, original) ∈ map.entries ∧ f original = some value := by
    rw [filterMap, List.mem_filterMap]
    constructor
    · rintro ⟨⟨other, original⟩, present, made⟩
      obtain ⟨_, image, same⟩ := Option.map_eq_some_iff.mp made
      obtain ⟨rfl, rfl⟩ := Prod.mk.inj same
      exact ⟨original, present, image⟩
    · rintro ⟨original, present, image⟩
      exact ⟨(name, original), present, Option.map_eq_some_iff.mpr ⟨value, image, rfl⟩⟩
  rw [← mem_entries_iff, member, Option.bind_eq_some_iff]
  simp only [mem_entries_iff]

end NameMap

end LayeredConfig
