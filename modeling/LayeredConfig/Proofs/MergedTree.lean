import Mathlib.Data.List.Forall2
import LayeredConfig.Config.Tree

/-!
# The merged tree is the overlay of the sources

Properties are written into one tree by destructive insertions, the lowest source first. What
is left of them in the end is described path by path: one written path settles every path that
leads to it or goes on from it and leaves all others alone, so of several sources the one
written last, which is the first in rank, decides each path that it touches.
-/

namespace LayeredConfig

namespace Tree

/-- What stands at the end of a path. -/
def at? : Tree → List String → Option Tree
  | tree, [] => some tree
  | .leaf _, _ :: _ => none
  | .table entries, name :: rest => (Entries.find? name entries).bind fun below => below.at? rest

/-- One of two paths leads to the other, or they are equal. -/
def Comparable (left right : List String) : Prop :=
  left <+: right ∨ right <+: left

instance (left right : List String) : Decidable (Comparable left right) :=
  inferInstanceAs (Decidable (left <+: right ∨ right <+: left))

theorem comparable_refl (path : List String) : Comparable path path :=
  Or.inl (List.prefix_refl path)

theorem comparable_comm {left right : List String} :
    Comparable left right ↔ Comparable right left :=
  or_comm

theorem comparable_cons_iff {name : String} {left right : List String} :
    Comparable (name :: left) (name :: right) ↔ Comparable left right := by
  rw [Comparable, Comparable, List.prefix_cons_inj, List.prefix_cons_inj]

/-- A path that goes on from one beside another path lies beside that path as well. -/
theorem not_comparable_append {left right : List String} (apart : ¬ Comparable left right)
    (further : List String) : ¬ Comparable left (right ++ further) := by
  intro comparable
  apply apart
  rcases comparable with above | below
  · exact List.prefix_or_prefix_of_prefix above (List.prefix_append right further)
  · exact Or.inr ((List.prefix_append right further).trans below)

theorem at?_append (tree : Tree) (path further : List String) :
    tree.at? (path ++ further) = (tree.at? path).bind fun below => below.at? further := by
  induction path generalizing tree with
  | nil => rfl
  | cons name rest inductionHypothesis =>
      cases tree with
      | leaf text => rfl
      | table entries =>
          rw [List.cons_append, at?, at?, Option.bind_assoc]
          congr 1
          funext below
          exact inductionHypothesis below

/-- Only tables have anything below them. -/
theorem exists_table_of_at?_append {tree below : Tree} {path further : List String}
    (proper : further ≠ []) (found : tree.at? (path ++ further) = some below) :
    ∃ entries, tree.at? path = some (.table entries) := by
  rw [at?_append] at found
  obtain ⟨between, here, there⟩ := Option.bind_eq_some_iff.mp found
  cases between with
  | table entries => exact ⟨entries, here⟩
  | leaf text =>
      cases further with
      | nil => exact absurd rfl proper
      | cons name rest => cases there

/-- What a name holds after a text was put below it. -/
private def written (text : String) (rest : List String) (existing : Option Tree) : Tree :=
  match rest with
  | [] => .leaf text
  | _ :: _ => .table (put text rest ((existing.map Tree.entries).getD []))

private theorem put_cons (text name : String) (rest : List String)
    (entries : List (String × Tree)) :
    put text (name :: rest) entries =
      Entries.insert name (written text rest (Entries.find? name entries)) entries := by
  cases rest <;> rfl

private theorem at?_put_cons (text name other : String) (rest more : List String)
    (entries : List (String × Tree)) :
    (Tree.table (put text (name :: rest) entries)).at? (other :: more) =
      if other = name then (written text rest (Entries.find? name entries)).at? more
      else (Tree.table entries).at? (other :: more) := by
  rw [put_cons, at?, Entries.find?_insert]
  by_cases same : other = name
  · rw [if_pos same, if_pos same]
    rfl
  · rw [if_neg same, if_neg same]
    rfl

/-- The text stands where it was put. -/
theorem at?_put_self (text : String) {path : List String} (proper : path ≠ [])
    (entries : List (String × Tree)) :
    (Tree.table (put text path entries)).at? path = some (.leaf text) := by
  induction path generalizing entries with
  | nil => exact absurd rfl proper
  | cons name rest inductionHypothesis =>
      rw [at?_put_cons, if_pos rfl]
      cases rest with
      | nil => rfl
      | cons next others => exact inductionHypothesis (List.cons_ne_nil next others) _

/-- Beside its path an insertion changes nothing. Where it descends, a leaf on the way is
taken for an empty table, which holds as little as the leaf does. -/
theorem at?_put_of_not_comparable (text : String) {path other : List String}
    (apart : ¬ Comparable path other) (entries : List (String × Tree)) :
    (Tree.table (put text path entries)).at? other = (Tree.table entries).at? other := by
  induction path generalizing other entries with
  | nil => exact absurd (Or.inl (List.nil_prefix)) apart
  | cons name rest inductionHypothesis =>
      cases other with
      | nil => exact absurd (Or.inr (List.nil_prefix)) apart
      | cons first more =>
          rw [at?_put_cons]
          by_cases same : first = name
          · subst same
            have restApart : ¬ Comparable rest more :=
              fun comparable => apart (comparable_cons_iff.mpr comparable)
            have moreProper : more ≠ [] := by
              intro empty
              apply restApart
              rw [empty]
              exact Or.inr List.nil_prefix
            rw [if_pos rfl]
            cases rest with
            | nil => exact absurd (Or.inl List.nil_prefix) restApart
            | cons next others =>
                rw [written, inductionHypothesis restApart, at?]
                obtain ⟨second, remainder, rfl⟩ := List.exists_cons_of_ne_nil moreProper
                cases existing : Entries.find? first entries with
                | none => rfl
                | some below =>
                    cases below with
                    | leaf old => rfl
                    | table inner => rfl
          · rw [if_neg same]

/-- A text is found after an insertion if it was put there, or if it was there before and the
insertion passed it by. -/
theorem at?_put_eq_leaf_iff {text value : String} {path other : List String}
    (proper : path ≠ []) {entries : List (String × Tree)} :
    (Tree.table (put text path entries)).at? other = some (.leaf value) ↔
      (other = path ∧ value = text) ∨
        (¬ Comparable path other ∧ (Tree.table entries).at? other = some (.leaf value)) := by
  have self := at?_put_self text proper entries
  by_cases comparable : Comparable path other
  · have settled : (Tree.table (put text path entries)).at? other = some (.leaf value) ↔
        other = path ∧ value = text := by
      rcases comparable with ⟨further, rfl⟩ | ⟨further, rfl⟩
      · -- below the text there is nothing
        rw [at?_append, self]
        cases further with
        | nil => simp [at?, eq_comm]
        | cons name rest => simp [at?]
      · -- above the text there are only tables
        cases further with
        | nil =>
            rw [List.append_nil] at self ⊢
            rw [self]
            simp [eq_comm]
        | cons name rest =>
            obtain ⟨below, table⟩ :=
              exists_table_of_at?_append (List.cons_ne_nil name rest) self
            simp [table]
    rw [settled]
    simp [comparable]
  · have different : other ≠ path := by
      intro same
      apply comparable
      rw [same]
      exact comparable_refl path
    rw [at?_put_of_not_comparable text comparable]
    simp [comparable, different]

/-- Every table below the root leads to a text. -/
def Filled (tree : Tree) : Prop :=
  ∀ path below, path ≠ [] → tree.at? path = some (.table below) →
    ∃ further value, further ≠ [] ∧ tree.at? (path ++ further) = some (.leaf value)

theorem filled_put {text : String} {path : List String} (proper : path ≠ [])
    {entries : List (String × Tree)} (filled : Filled (.table entries)) :
    Filled (.table (put text path entries)) := by
  intro other below otherProper table
  have self := at?_put_self text proper entries
  by_cases comparable : Comparable path other
  · rcases comparable with ⟨further, rfl⟩ | ⟨further, rfl⟩
    · -- what goes on from a text is no table
      rw [at?_append, self] at table
      cases further <;> cases table
    · refine ⟨further, text, ?_, self⟩
      intro empty
      rw [empty, List.append_nil] at self table
      rw [self] at table
      cases table
  · rw [at?_put_of_not_comparable text comparable] at table
    obtain ⟨further, value, furtherProper, found⟩ := filled other below otherProper table
    refine ⟨further, value, furtherProper, ?_⟩
    rw [at?_put_of_not_comparable text (not_comparable_append comparable further)]
    exact found

/-- No table holds a name twice. -/
def Distinct (tree : Tree) : Prop :=
  ∀ path below, tree.at? path = some (.table below) → (Entries.keys below).Nodup

theorem distinct_empty : Distinct (.table []) := by
  intro path below table
  cases path with
  | nil =>
      cases table
      exact List.nodup_nil
  | cons name rest => cases table

theorem distinct_put {text : String} {path : List String} {entries : List (String × Tree)}
    (distinct : Distinct (.table entries)) : Distinct (.table (put text path entries)) := by
  induction path generalizing entries with
  | nil => exact distinct
  | cons name rest inductionHypothesis =>
      intro other below table
      cases other with
      | nil =>
          obtain rfl := Tree.table.inj (Option.some.inj table)
          rw [put_cons]
          exact Entries.nodup_insert (distinct [] entries rfl)
      | cons first more =>
          rw [at?_put_cons] at table
          by_cases same : first = name
          · rw [if_pos same] at table
            cases rest with
            | nil => cases more <;> cases table
            | cons next others =>
                refine inductionHypothesis ?_ more below table
                cases existing : Entries.find? name entries with
                | none => exact distinct_empty
                | some standing =>
                    cases standing with
                    | leaf old => exact distinct_empty
                    | table inner =>
                        intro further innermost found
                        apply distinct (name :: further) innermost
                        rw [at?, existing]
                        exact found
          · rw [if_neg same] at table
            exact distinct (first :: more) below table

/-- The key has a place that leads to the path, or to which the path leads. -/
def Touches (key : String) (path : List String) : Prop :=
  ∃ segments ∈ segments? key, Comparable segments path

instance (key : String) (path : List String) : Decidable (Touches key path) :=
  inferInstanceAs (Decidable (∃ segments ∈ segments? key, Comparable segments path))

/-- No two names of one map get in each other's way. -/
def Unambiguous (properties : NameMap String) : Prop :=
  ∀ first ∈ properties.names, ∀ second ∈ properties.names,
    (∃ segments ∈ segments? second, Touches first segments) → first = second

instance (properties : NameMap String) : Decidable (Unambiguous properties) :=
  inferInstanceAs (Decidable (∀ first ∈ properties.names, ∀ second ∈ properties.names,
    (∃ segments ∈ segments? second, Touches first segments) → first = second))

/-- A place has at least one name in it. -/
theorem segments?_ne_nil {key : String} {segments : List String}
    (place : segments? key = some segments) : segments ≠ [] := by
  intro empty
  rw [empty, segments?] at place
  split at place
  · cases place
  · have noPieces := Option.some.inj place
    rw [Text.split, List.map_eq_nil_iff] at noPieces
    exact Text.pieces_ne_nil _ _ noPieces

theorem touches_iff {key : String} {segments path : List String}
    (place : segments? key = some segments) : Touches key path ↔ Comparable segments path := by
  rw [Touches, place]
  simp

theorem putProperty_of_place {key text : String} {segments : List String}
    (place : segments? key = some segments) (entries : List (String × Tree)) :
    putProperty entries (key, text) = put text segments entries := by
  rw [putProperty, place]

theorem putProperty_of_no_place {key text : String}
    (noPlace : segments? key = none) (entries : List (String × Tree)) :
    putProperty entries (key, text) = entries := by
  rw [putProperty, noPlace]

theorem not_touches_of_no_place {key : String} (noPlace : segments? key = none)
    (path : List String) : ¬ Touches key path := by
  intro touches
  obtain ⟨segments, member, _⟩ := touches
  rw [noPlace] at member
  cases member

theorem filled_putProperty {entries : List (String × Tree)} (filled : Filled (.table entries))
    (property : String × String) : Filled (.table (putProperty entries property)) := by
  obtain ⟨key, text⟩ := property
  cases place : segments? key with
  | none =>
      rw [putProperty_of_no_place place]
      exact filled
  | some segments =>
      rw [putProperty_of_place place]
      exact filled_put (segments?_ne_nil place) filled

theorem filled_putListing {listing : List (String × String)} {entries : List (String × Tree)}
    (filled : Filled (.table entries)) : Filled (.table (putListing entries listing)) := by
  induction listing generalizing entries with
  | nil => exact filled
  | cons property rest inductionHypothesis =>
      rw [putListing, List.foldl_cons]
      exact inductionHypothesis (filled_putProperty filled property)

theorem distinct_putListing {listing : List (String × String)} {entries : List (String × Tree)}
    (distinct : Distinct (.table entries)) : Distinct (.table (putListing entries listing)) := by
  induction listing generalizing entries with
  | nil => exact distinct
  | cons property rest inductionHypothesis =>
      rw [putListing, List.foldl_cons]
      refine inductionHypothesis ?_
      cases place : segments? property.1 with
      | none =>
          rw [putProperty_of_no_place place]
          exact distinct
      | some segments =>
          rw [putProperty_of_place place]
          exact distinct_put distinct

/-- One property: its text stands at its place, and what the key does not touch is left as it
was. -/
theorem at?_putProperty_eq_leaf_iff {key text value : String} {path : List String}
    {entries : List (String × Tree)} :
    (Tree.table (putProperty entries (key, text))).at? path = some (.leaf value) ↔
      (segments? key = some path ∧ value = text) ∨
        (¬ Touches key path ∧ (Tree.table entries).at? path = some (.leaf value)) := by
  cases place : segments? key with
  | none =>
      have passes := not_touches_of_no_place place path
      rw [putProperty_of_no_place place]
      simp [passes]
  | some segments =>
      rw [putProperty_of_place place, at?_put_eq_leaf_iff (segments?_ne_nil place),
        touches_iff place, Option.some.injEq, eq_comm (a := path)]

/-- In a listing whose properties keep out of each other's way, every text stays where it was
put, and what was there before is still found where no property of the listing touches it. -/
theorem at?_putListing_eq_leaf_iff {listing : List (String × String)}
    (apart : listing.Pairwise fun first second =>
      ∀ segments, segments? second.1 = some segments → ¬ Touches first.1 segments)
    {entries : List (String × Tree)} {path : List String} {value : String} :
    (Tree.table (putListing entries listing)).at? path = some (.leaf value) ↔
      (∃ key, (key, value) ∈ listing ∧ segments? key = some path) ∨
        ((∀ property ∈ listing, ¬ Touches property.1 path) ∧
          (Tree.table entries).at? path = some (.leaf value)) := by
  induction listing generalizing entries with
  | nil => simp [putListing]
  | cons property rest inductionHypothesis =>
      obtain ⟨key, text⟩ := property
      obtain ⟨headApart, restApart⟩ := List.pairwise_cons.mp apart
      have later := @inductionHypothesis restApart (putProperty entries (key, text))
      rw [at?_putProperty_eq_leaf_iff] at later
      rw [putListing, List.foldl_cons, List.forall_mem_cons]
      refine later.trans ?_
      constructor
      · intro found
        rcases found with ⟨other, member, place⟩ | ⟨untouched, ⟨place, rfl⟩ | ⟨passes, before⟩⟩
        · exact Or.inl ⟨other, List.mem_cons_of_mem _ member, place⟩
        · exact Or.inl ⟨key, List.mem_cons_self, place⟩
        · exact Or.inr ⟨⟨passes, untouched⟩, before⟩
      · intro stands
        rcases stands with ⟨other, member, place⟩ | ⟨⟨passes, untouched⟩, before⟩
        · rcases List.mem_cons.mp member with same | inRest
          · cases same
            refine Or.inr ⟨?_, Or.inl ⟨place, rfl⟩⟩
            intro property propertyMember touches
            obtain ⟨segments, segmentsMember, comparable⟩ := touches
            apply headApart property propertyMember segments segmentsMember
            exact (touches_iff place).mpr (comparable_comm.mp comparable)
          · exact Or.inl ⟨other, inRest, place⟩
        · exact Or.inr ⟨untouched, Or.inr ⟨passes, before⟩⟩

/-- However a map is listed, the properties of the listing keep out of each other's way if the
names of the map do. -/
theorem apart_of_unambiguous {properties : NameMap String} {listing : List (String × String)}
    (unambiguous : Unambiguous properties) (listed : listing.Perm properties.entries) :
    listing.Pairwise fun first second =>
      ∀ segments, segments? second.1 = some segments → ¬ Touches first.1 segments := by
  have distinct : (listing.map Prod.fst).Nodup :=
    (listed.map Prod.fst).nodup_iff.mpr properties.distinct
  have named : ∀ property ∈ listing, property.1 ∈ properties.names := fun property member =>
    List.mem_map_of_mem (listed.mem_iff.mp member)
  refine (List.pairwise_map.mp distinct).imp_of_mem ?_
  intro first second firstMember secondMember different segments place touches
  exact different (unambiguous first.1 (named first firstMember) second.1
    (named second secondMember) ⟨segments, place, touches⟩)

/-! ## Several sources -/

/-- The first source is written over all others. -/
theorem merge_cons (listing : List (String × String))
    (listings : List (List (String × String))) :
    merge (listing :: listings) = .table (putListing (merge listings).entries listing) := by
  rw [merge, List.reverse_cons, List.foldl_append]
  rfl

theorem filled_merge (listings : List (List (String × String))) : Filled (merge listings) := by
  induction listings with
  | nil =>
      intro path below proper table
      cases path with
      | nil => exact absurd rfl proper
      | cons name rest => cases table
  | cons listing rest inductionHypothesis =>
      rw [merge_cons]
      exact filled_putListing inductionHypothesis

theorem distinct_merge (listings : List (List (String × String))) : Distinct (merge listings) := by
  induction listings with
  | nil => exact distinct_empty
  | cons listing rest inductionHypothesis =>
      rw [merge_cons]
      exact distinct_putListing inductionHypothesis

end Tree

end LayeredConfig
