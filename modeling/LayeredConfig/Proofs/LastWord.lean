import LayeredConfig.Proofs.MergedTree

/-!
Properties that are written into one tree may get in each other's way, even within one source.
Still a path holds what the last property that touches it has left there: its text, if it was
put at the path itself, and nothing otherwise. The first source in rank is written last, so the
search for the last word goes through the sources from the top.
-/

namespace LayeredConfig.Tree

def textAt? (tree : Tree) (path : List String) : Option String :=
  match tree.at? path with
  | some (.leaf text) => some text
  | _ => none

theorem textAt?_eq_some_iff {tree : Tree} {path : List String} {text : String} :
    tree.textAt? path = some text ↔ tree.at? path = some (.leaf text) := by
  rw [textAt?]
  rcases tree.at? path with _ | (other | entries)
  · simp
  · simp
  · simp

theorem textAt?_empty (path : List String) : (Tree.table []).textAt? path = none := by
  cases path <;> rfl

/-- What a property says about a path. It says nothing if its key does not touch the path. -/
def word? (path : List String) (property : String × String) : Option (Option String) :=
  if Touches property.1 path then
    some (if segments? property.1 = some path then some property.2 else none)
  else none

theorem word?_isSome_iff {path : List String} {property : String × String} :
    (word? path property).isSome ↔ Touches property.1 path := by
  rw [word?]
  split
  · rename_i touches
    simp [touches]
  · rename_i passes
    simp [passes]

theorem touches_of_place {key : String} {path : List String}
    (place : segments? key = some path) : Touches key path :=
  (touches_iff place).mpr (comparable_refl path)

theorem textAt?_putProperty (path : List String) (property : String × String)
    (entries : List (String × Tree)) :
    (Tree.table (putProperty entries property)).textAt? path =
      (word? path property).getD ((Tree.table entries).textAt? path) := by
  obtain ⟨key, text⟩ := property
  apply Option.ext
  intro value
  rw [textAt?_eq_some_iff, at?_putProperty_eq_leaf_iff, ← textAt?_eq_some_iff, word?]
  by_cases touches : Touches key path
  · by_cases place : segments? key = some path
    · simp [touches, place, eq_comm]
    · simp [touches, place]
  · have elsewhere : segments? key ≠ some path := by
      intro place
      exact touches (touches_of_place place)
    simp [touches, elsewhere]

def lastWord? (path : List String) (listing : List (String × String)) :
    Option (Option String) :=
  listing.reverse.findSome? (word? path)

theorem lastWord?_isSome_iff {path : List String} {listing : List (String × String)} :
    (lastWord? path listing).isSome ↔ ∃ property ∈ listing, Touches property.1 path := by
  rw [lastWord?, List.findSome?_isSome_iff]
  simp only [List.mem_reverse, word?_isSome_iff]

theorem textAt?_putListing (path : List String) (listing : List (String × String))
    (entries : List (String × Tree)) :
    (Tree.table (putListing entries listing)).textAt? path =
      (lastWord? path listing).getD ((Tree.table entries).textAt? path) := by
  induction listing generalizing entries with
  | nil =>
      rfl
  | cons property rest inductionHypothesis =>
      have later := inductionHypothesis (putProperty entries property)
      rw [textAt?_putProperty] at later
      rw [putListing, List.foldl_cons]
      refine later.trans ?_
      rw [lastWord?, lastWord?, List.reverse_cons, List.findSome?_append]
      cases rest.reverse.findSome? (word? path) with
      | none =>
          cases said : word? path property <;> simp [said]
      | some word =>
          rfl

/-- The last word on a path in a merged tree is that of the first listing with a word on it. -/
theorem textAt?_merge (path : List String) (listings : List (List (String × String))) :
    (merge listings).textAt? path = (listings.findSome? (lastWord? path)).getD none := by
  induction listings with
  | nil =>
      exact textAt?_empty path
  | cons listing rest inductionHypothesis =>
      have below : (Tree.table (merge rest).entries).textAt? path =
          (rest.findSome? (lastWord? path)).getD none := inductionHypothesis
      rw [merge_cons, textAt?_putListing, below, List.findSome?_cons]
      cases lastWord? path listing with
      | none => rfl
      | some word => rfl

/-- Where no two names get in each other's way, the order of the listing does not matter. -/
theorem lastWord?_eq_of_perm {properties : NameMap String} {listing : List (String × String)}
    (unambiguous : Unambiguous properties) (listed : listing.Perm properties.entries)
    (path : List String) :
    lastWord? path listing = lastWord? path properties.entries := by
  have texts (other : List (String × String)) (same : other.Perm properties.entries)
      (value : String) :
      (lastWord? path other).getD none = some value ↔
        ∃ key, (key, value) ∈ properties.entries ∧ segments? key = some path := by
    have alone := textAt?_putListing path other []
    rw [textAt?_empty] at alone
    rw [← alone, textAt?_eq_some_iff,
      at?_putListing_eq_leaf_iff (apart_of_unambiguous unambiguous same)]
    have nothing : (Tree.table []).at? path ≠ some (.leaf value) := by
      cases path <;> simp [at?, Entries.find?]
    simp only [same.mem_iff, nothing, and_false, or_false]
  have sameText : (lastWord? path listing).getD none =
      (lastWord? path properties.entries).getD none := by
    apply Option.ext
    intro value
    rw [texts listing listed, texts properties.entries (List.Perm.refl _)]
  have sameTouch : (lastWord? path listing).isSome ↔
      (lastWord? path properties.entries).isSome := by
    rw [lastWord?_isSome_iff, lastWord?_isSome_iff]
    simp only [listed.mem_iff]
  cases left : lastWord? path listing <;> cases right : lastWord? path properties.entries <;>
    simp_all

/-- Only the name itself has a word on its place, wherever it stands in the listing. -/
theorem lastWord?_eq_find? {properties : NameMap String} {listing : List (String × String)}
    (listed : listing.Perm properties.entries) {name : String} {path : List String}
    (place : segments? name = some path)
    (apart : ∀ other ∈ properties.names, Touches other path → other = name) :
    lastWord? path listing = (properties.find? name).map some := by
  have named (property : String × String) (member : property ∈ listing)
      (touches : Touches property.1 path) :
      property.1 = name ∧ properties.find? name = some property.2 := by
    have present : property ∈ properties.entries := listed.mem_iff.mp member
    have same : property.1 = name :=
      apart property.1 (List.mem_map_of_mem present) touches
    refine ⟨same, ?_⟩
    rw [← same]
    exact NameMap.mem_entries_iff.mp present
  cases found : properties.find? name with
  | none =>
      have silent : ¬ (lastWord? path listing).isSome := by
        rw [lastWord?_isSome_iff]
        rintro ⟨property, member, touches⟩
        have held := (named property member touches).2
        rw [found] at held
        cases held
      exact Option.not_isSome_iff_eq_none.mp silent
  | some value =>
      have member : (name, value) ∈ listing :=
        listed.mem_iff.mpr (NameMap.mem_entries_iff.mpr found)
      have speaks : (lastWord? path listing).isSome :=
        lastWord?_isSome_iff.mpr ⟨_, member, touches_of_place place⟩
      obtain ⟨word, said⟩ := Option.isSome_iff_exists.mp speaks
      obtain ⟨property, propertyMember, its⟩ := List.exists_of_findSome?_eq_some said
      have touches : Touches property.1 path := word?_isSome_iff.mp (by rw [its]; rfl)
      obtain ⟨same, held⟩ := named property (List.mem_reverse.mp propertyMember) touches
      rw [word?, if_pos touches, same, if_pos place] at its
      rw [said, ← its, ← held, found]
      rfl

end LayeredConfig.Tree
