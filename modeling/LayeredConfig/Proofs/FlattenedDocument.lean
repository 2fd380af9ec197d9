import LayeredConfig.Config.Binding
import LayeredConfig.Proofs.DocumentLeaves

/-!
A structured document is flattened to one property for each leaf, and binding puts the
properties into a tree again, one after the other. The tree is the document with its leaves
replaced by their texts, without the tables that hold no leaf. Neither the order in which the
tables of the document are enumerated nor the one in which the properties are listed matters.
-/

namespace LayeredConfig

namespace Tree

/-- What stands at one place of two trees: nothing, the same text, or tables of the same
names. -/
inductive SameHere : Option Tree → Option Tree → Prop where
  | nothing : SameHere none none
  | text (text : String) : SameHere (some (.leaf text)) (some (.leaf text))
  | table {left right : List (String × Tree)}
      (names : (Entries.keys left).Perm (Entries.keys right)) :
      SameHere (some (.table left)) (some (.table right))

/-- The trees are the same, but for the order in which their tables hold the names. -/
def Agrees (left right : Tree) : Prop :=
  ∀ path, SameHere (left.at? path) (right.at? path)

theorem mem_keys_iff_at? {tree : Tree} {path : List String} {below : List (String × Tree)}
    (table : tree.at? path = some (.table below)) {name : String} :
    name ∈ Entries.keys below ↔ (tree.at? (path ++ [name])).isSome := by
  rw [← Entries.find?_isSome, at?_append, table]
  cases found : Entries.find? name below <;> simp [at?, found]

/-- In a filled table the tables are where a text lies further below. -/
theorem exists_table_iff {entries : List (String × Tree)} (filled : Filled (.table entries))
    {path : List String} :
    (∃ below, (Tree.table entries).at? path = some (.table below)) ↔
      path = [] ∨ ∃ further value, further ≠ [] ∧
        (Tree.table entries).at? (path ++ further) = some (.leaf value) := by
  constructor
  · intro standing
    obtain ⟨below, table⟩ := standing
    by_cases root : path = []
    · exact Or.inl root
    · exact Or.inr (filled path below root table)
  · intro leading
    rcases leading with rfl | ⟨further, value, proper, found⟩
    · exact ⟨entries, rfl⟩
    · exact exists_table_of_at?_append proper found

theorem isSome_iff_leaf_or_table {standing : Option Tree} :
    standing.isSome ↔
      (∃ text, standing = some (.leaf text)) ∨ ∃ below, standing = some (.table below) := by
  rcases standing with _ | (text | below) <;> simp

/-- Tables that are filled and distinct are determined by the texts in them. -/
theorem agrees_of_same_texts {left right : List (String × Tree)}
    (leftFilled : Filled (.table left)) (rightFilled : Filled (.table right))
    (leftDistinct : Distinct (.table left)) (rightDistinct : Distinct (.table right))
    (texts : ∀ path text, (Tree.table left).at? path = some (.leaf text) ↔
      (Tree.table right).at? path = some (.leaf text)) :
    Agrees (.table left) (.table right) := by
  have tables (path : List String) :
      (∃ below, (Tree.table left).at? path = some (.table below)) ↔
        ∃ below, (Tree.table right).at? path = some (.table below) := by
    simp only [exists_table_iff leftFilled, exists_table_iff rightFilled, texts]
  have present (path : List String) :
      ((Tree.table left).at? path).isSome ↔ ((Tree.table right).at? path).isSome := by
    simp only [isSome_iff_leaf_or_table, texts, tables]
  intro path
  cases standing : (Tree.table left).at? path with
  | none =>
      have absent : (Tree.table right).at? path = none := by
        rw [← Option.not_isSome_iff_eq_none, ← present, standing]
        exact Bool.false_ne_true
      rw [absent]
      exact .nothing
  | some here =>
      cases here with
      | leaf text =>
          rw [(texts path text).mp standing]
          exact .text text
      | table below =>
          obtain ⟨others, otherStanding⟩ := (tables path).mp ⟨below, standing⟩
          rw [otherStanding]
          refine .table ?_
          rw [List.perm_ext_iff_of_nodup (leftDistinct path below standing)
            (rightDistinct path others otherStanding)]
          intro name
          rw [mem_keys_iff_at? standing, mem_keys_iff_at? otherStanding]
          exact present (path ++ [name])

/-! ## Leaves put one after the other -/

/-- Puts the texts of leaves at the ends of their paths. -/
def putLeaves (entries : List (String × Tree)) (leaves : List (List String × String)) :
    List (String × Tree) :=
  leaves.foldl (fun entries leaf => put leaf.2 leaf.1 entries) entries

/-- A text below a new name makes a table at the end. -/
theorem put_below_fresh {name : String} {path : List String} {entries : List (String × Tree)}
    (text : String) (proper : path ≠ []) (fresh : name ∉ Entries.keys entries) :
    put text (name :: path) entries = entries ++ [(name, .table (put text path []))] := by
  obtain ⟨next, others, rfl⟩ := List.exists_cons_of_ne_nil proper
  have absent : Entries.find? name entries = none := by
    rwa [← Option.not_isSome_iff_eq_none, Entries.find?_isSome]
  rw [put, absent, Entries.insert_of_not_mem fresh]
  · rfl
  · exact List.cons_ne_nil next others

/-- A text below the name at the end goes into its table. -/
theorem put_below_last {name : String} {path : List String} {entries : List (String × Tree)}
    (text : String) (proper : path ≠ []) (fresh : name ∉ Entries.keys entries)
    (inner : List (String × Tree)) :
    put text (name :: path) (entries ++ [(name, .table inner)]) =
      entries ++ [(name, .table (put text path inner))] := by
  obtain ⟨next, others, rfl⟩ := List.exists_cons_of_ne_nil proper
  have absent : Entries.find? name entries = none := by
    rwa [← Option.not_isSome_iff_eq_none, Entries.find?_isSome]
  have found : Entries.find? name (entries ++ [(name, .table inner)]) = some (.table inner) := by
    rw [Entries.find?_append, absent, Option.none_or, Entries.find?, if_pos rfl]
  rw [put, found, Entries.insert_append_cons fresh]
  · rfl
  · exact List.cons_ne_nil next others

theorem putLeaves_below_last {name : String} {entries : List (String × Tree)}
    {leaves : List (List String × String)} (proper : ∀ leaf ∈ leaves, leaf.1 ≠ [])
    (fresh : name ∉ Entries.keys entries) (inner : List (String × Tree)) :
    putLeaves (entries ++ [(name, .table inner)])
        (leaves.map fun leaf => (name :: leaf.1, leaf.2)) =
      entries ++ [(name, .table (putLeaves inner leaves))] := by
  induction leaves generalizing inner with
  | nil => rfl
  | cons leaf rest inductionHypothesis =>
      obtain ⟨leafProper, restProper⟩ := List.forall_mem_cons.mp proper
      rw [putLeaves, List.map_cons, List.foldl_cons, put_below_last leaf.2 leafProper fresh]
      exact inductionHypothesis restProper _

/-- Leaves below one new name make one table at the end, if there are any. -/
theorem putLeaves_below_fresh {name : String} {entries : List (String × Tree)}
    {leaves : List (List String × String)} (nonempty : leaves ≠ [])
    (proper : ∀ leaf ∈ leaves, leaf.1 ≠ []) (fresh : name ∉ Entries.keys entries) :
    putLeaves entries (leaves.map fun leaf => (name :: leaf.1, leaf.2)) =
      entries ++ [(name, .table (putLeaves [] leaves))] := by
  obtain ⟨first, rest, rfl⟩ := List.exists_cons_of_ne_nil nonempty
  obtain ⟨firstProper, restProper⟩ := List.forall_mem_cons.mp proper
  rw [putLeaves, List.map_cons, List.foldl_cons, put_below_fresh first.2 firstProper fresh]
  exact putLeaves_below_last restProper fresh _

end Tree

namespace Document.Value

open LayeredConfig.Tree (putLeaves)

/-- Leaves of one entry put below a new name. -/
theorem putLeaves_entryLeaves {name : String} {value : Value}
    {before : List (String × Tree)} (fresh : name ∉ Entries.keys before)
    (below : ∀ inner, value = .table inner → Nameable inner ∧
      putLeaves [] (entriesLeaves inner) = textEntries inner) :
    putLeaves before (entryLeaves (name, value)) = before ++ entryTexts (name, value) := by
  rw [entryLeaves, entryTexts]
  rcases value.table_or_leaf with ⟨inner, rfl⟩ | ⟨text, leaf⟩
  · obtain ⟨nameable, filled⟩ := below inner rfl
    rw [leaves, textTree?]
    cases found : entriesLeaves inner with
    | nil => simp [putLeaves]
    | cons first rest =>
        rw [← found, Tree.putLeaves_below_fresh _ _ fresh, filled]
        · simp [found]
        · simp [found]
        · exact fun leaf member => (nameable.parts member).1
  · rw [leaves_of_leaf leaf, textTree?_of_leaf leaf]
    exact Entries.insert_of_not_mem fresh

/-- Leaves put one after the other make up the texts of the document, in the same order. By
induction on the document, whose tables come up one after the other. -/
theorem Nameable.putLeaves_eq {entries : List (String × Value)} (nameable : Nameable entries)
    {before : List (String × Tree)}
    (apart : ∀ name ∈ Entries.keys entries, name ∉ Entries.keys before) :
    putLeaves before (entriesLeaves entries) = before ++ textEntries entries := by
  induction nameable generalizing before with
  | nil =>
      rw [entriesLeaves, textEntries, List.append_nil]
      rfl
  | @cons name value rest part fresh below others belowHypothesis restHypothesis =>
      obtain ⟨nameApart, restApart⟩ := List.forall_mem_cons.mp apart
      have head : putLeaves before (entryLeaves (name, value)) =
          before ++ entryTexts (name, value) := by
        refine putLeaves_entryLeaves nameApart fun inner same => ⟨below inner same, ?_⟩
        exact belowHypothesis inner same (fun _ _ => List.not_mem_nil)
      have headNames : ∀ other ∈ Entries.keys (entryTexts (name, value)), other = name := by
        rw [entryTexts]
        cases value.textTree? <;> simp [Entries.keys]
      have later : ∀ other ∈ Entries.keys rest,
          other ∉ Entries.keys (before ++ entryTexts (name, value)) := by
        intro other member inBefore
        rw [Entries.keys, List.map_append, List.mem_append] at inBefore
        rcases inBefore with earlier | inHead
        · exact restApart other member earlier
        · rw [headNames other inHead] at member
          exact fresh member
      rw [entriesLeaves, putLeaves, List.foldl_append, ← putLeaves, ← putLeaves, head,
        restHypothesis later, textEntries, List.append_assoc]

/-- Flattened properties keep out of each other's way. -/
theorem Nameable.unambiguous {entries : List (String × Value)} (nameable : Nameable entries) :
    Tree.Unambiguous (NameMap.ofList (flatten entries)) := by
  intro first firstMember second secondMember touching
  rw [NameMap.names, NameMap.entries_ofList nameable.nodup_keys, flatten_eq, Entries.keys,
    List.map_map, List.mem_map] at firstMember secondMember
  obtain ⟨firstLeaf, firstLeafMember, rfl⟩ := firstMember
  obtain ⟨secondLeaf, secondLeafMember, rfl⟩ := secondMember
  obtain ⟨segments, place, touches⟩ := touching
  have firstPlace := nameable.segments?_dotted firstLeafMember
  have secondPlace := nameable.segments?_dotted secondLeafMember
  rw [Function.comp_apply, secondPlace, Option.mem_some_iff] at place
  rw [Function.comp_apply, Tree.touches_iff firstPlace, ← place] at touches
  rw [nameable.eq_of_comparable firstLeafMember secondLeafMember touches]

/-- Flattened properties in the order of the document make up its texts in that order. -/
theorem Nameable.putListing_flatten {entries : List (String × Value)}
    (nameable : Nameable entries) : Tree.putListing [] (flatten entries) = textEntries entries := by
  have places : ∀ (leaves : List (List String × String)) (before : List (String × Tree)),
      (∀ leaf ∈ leaves, Tree.segments? (dotted leaf).1 = some leaf.1) →
        Tree.putListing before (leaves.map dotted) = putLeaves before leaves := by
    intro leaves
    induction leaves with
    | nil => exact fun before _ => rfl
    | cons leaf rest inductionHypothesis =>
        intro before place
        obtain ⟨leafPlace, restPlaces⟩ := List.forall_mem_cons.mp place
        have head : Tree.putProperty before (dotted leaf) = Tree.put leaf.2 leaf.1 before :=
          Tree.putProperty_of_place leafPlace before
        rw [Tree.putListing, List.map_cons, List.foldl_cons, head]
        exact inductionHypothesis _ restPlaces
  rw [flatten_eq, places _ _ fun leaf => nameable.segments?_dotted,
    nameable.putLeaves_eq fun _ _ => List.not_mem_nil, List.nil_append]

/-- In whatever order flattened properties are listed, they make up the texts of the document,
but for the order of names. -/
theorem Nameable.merge_agrees {entries : List (String × Value)} (nameable : Nameable entries)
    {listing : List (String × String)} (listed : listing.Perm (flatten entries)) :
    (Tree.merge [listing]).Agrees (.table (textEntries entries)) := by
  have texts (other : List (String × String)) (otherListed : other.Perm (flatten entries))
      (path : List String) (text : String) :
      (Tree.merge [other]).at? path = some (.leaf text) ↔
        ∃ key, (key, text) ∈ flatten entries ∧ Tree.segments? key = some path := by
    have named : other.Perm (NameMap.ofList (flatten entries)).entries := by
      rwa [NameMap.entries_ofList nameable.nodup_keys]
    have apart := Tree.apart_of_unambiguous nameable.unambiguous named
    have nothing : (Tree.table []).at? path ≠ some (.leaf text) := by
      cases path <;> simp [Tree.at?, Entries.find?]
    refine (Tree.at?_putListing_eq_leaf_iff apart).trans ?_
    simp only [nothing, and_false, or_false, otherListed.mem_iff]
  have standard : Tree.merge [flatten entries] = .table (textEntries entries) :=
    congrArg Tree.table nameable.putListing_flatten
  rw [← standard]
  refine Tree.agrees_of_same_texts (Tree.filled_merge [listing])
    (Tree.filled_merge [flatten entries]) (Tree.distinct_merge [listing])
    (Tree.distinct_merge [flatten entries]) ?_
  intro path text
  exact (texts listing listed path text).trans
    (texts (flatten entries) (List.Perm.refl _) path text).symm

end Document.Value

open Document

/-- Binding a flattened document gives the document back, with the text of every leaf in place
of the leaf and without the tables that hold none, in the order in which its tables were
enumerated. In whatever order tables are enumerated and properties are listed, what is bound is
the same but for the order of names. The properties are the leaves of the document, each once,
and none of their keys leads to another. -/
theorem Config.bind_flattened_document {entries enumerated : List (String × Value)}
    (nameable : Value.Nameable entries) (reordered : Value.Reordered entries enumerated)
    (path : String) (registered : List (ValueType × Converter)) (world : World) :
    let source := Source.structuredFile path (NameMap.ofList (Value.flatten enumerated))
    Config.bind ⟨[source], registered⟩ .held world .tree =
        .ok (.tree (.table (Value.textEntries enumerated))) ∧
      (∀ listing, listing.Perm (source.properties world).entries →
        (Tree.merge [listing]).Agrees (.table (Value.textEntries entries)) ∧
          (Tree.merge [listing]).Distinct) ∧
        (∀ enumeration, ∃ bound,
          Config.bind ⟨[source], registered⟩ enumeration world .tree = .ok (.tree bound) ∧
            bound.Agrees (.table (Value.textEntries entries)) ∧ bound.Distinct) ∧
          (source.properties world).entries.Perm ((Value.entriesLeaves entries).map Value.dotted) ∧
            ((Value.entriesLeaves entries).Pairwise fun first second =>
              ¬ Tree.Comparable first.1 second.1) ∧
              ∀ leaf ∈ Value.entriesLeaves entries,
                Tree.segments? (Value.dotted leaf).1 = some leaf.1 := by
  intro source
  have enumeratedNameable := reordered.nameable nameable
  have sourceEntries : (source.properties world).entries = Value.flatten enumerated :=
    NameMap.entries_ofList enumeratedNameable.nodup_keys
  have leavesPerm : (Value.flatten enumerated).Perm (Value.flatten entries) := by
    rw [Value.flatten_eq, Value.flatten_eq]
    exact reordered.leaves_perm.symm.map _
  have agrees (listing : List (String × String))
      (listed : listing.Perm (source.properties world).entries) :
      (Tree.merge [listing]).Agrees (.table (Value.textEntries entries)) ∧
        (Tree.merge [listing]).Distinct := by
    rw [sourceEntries] at listed
    exact ⟨nameable.merge_agrees (listed.trans leavesPerm), Tree.distinct_merge [listing]⟩
  refine ⟨?_, agrees, ?_, ?_, nameable.apart, fun leaf => nameable.segments?_dotted⟩
  · have merged : Config.tree ⟨[source], registered⟩ .held world =
        .table (Value.textEntries enumerated) := by
      have listing : Enumeration.held.list source (source.properties world) =
          Value.flatten enumerated := sourceEntries
      rw [Config.tree, List.map_singleton, listing, ← enumeratedNameable.putListing_flatten]
      rfl
    rw [Config.bind, merged]
    rfl
  · intro enumeration
    exact ⟨_, rfl, agrees _ (enumeration.perm source (source.properties world))⟩
  · rw [sourceEntries, ← Value.flatten_eq]
    exact leavesPerm

/-- A document with a table in it that holds no leaf, enumerated from its end. -/
theorem Config.bind_flattened_document_server :
    let server : List (String × Value) :=
      [("port", .whole 8080), ("limits", .table []), ("tags", .list [.text "a", .truth true])]
    let entries : List (String × Value) := [("server", .table server), ("note", .absent)]
    let enumerated : List (String × Value) := [("note", .absent), ("server", .table server)]
    let source := Source.structuredFile "app.json" (NameMap.ofList (Value.flatten enumerated))
    let world : World := ⟨⟨"<cwd>", []⟩, .empty, .empty⟩
    (Value.Nameable entries ∧ Value.Reordered entries enumerated) ∧
      Config.bind ⟨[source], []⟩ .held world .tree =
          .ok (.tree (.table [("note", .leaf ""),
            ("server", .table [("port", .leaf "8080"), ("tags", .leaf "a,true")])])) ∧
        (∀ listing, listing.Perm (source.properties world).entries →
          (Tree.merge [listing]).Agrees (.table (Value.textEntries entries)) ∧
            (Tree.merge [listing]).Distinct) ∧
          (∀ enumeration, ∃ bound,
            Config.bind ⟨[source], []⟩ enumeration world .tree = .ok (.tree bound) ∧
              bound.Agrees (.table (Value.textEntries entries)) ∧ bound.Distinct) ∧
            (source.properties world).entries.Perm
                ((Value.entriesLeaves entries).map Value.dotted) ∧
              ((Value.entriesLeaves entries).Pairwise fun first second =>
                ¬ Tree.Comparable first.1 second.1) ∧
                ∀ leaf ∈ Value.entriesLeaves entries,
                  Tree.segments? (Value.dotted leaf).1 = some leaf.1 := by
  intro server entries enumerated source world
  have serverNameable : Value.Nameable server :=
    .cons (by decide) (by decide) nofun
      (.cons (by decide) (by decide) (fun _ same => by cases same; exact .nil)
        (.cons (by decide) (by decide) nofun .nil))
  have nameable : Value.Nameable entries :=
    .cons (by decide) (by decide) (fun _ same => by cases same; exact serverNameable)
      (.cons (by decide) (by decide) nofun .nil)
  have reordered : Value.Reordered entries enumerated := .swap _ _ _
  exact ⟨⟨nameable, reordered⟩,
    Config.bind_flattened_document nameable reordered "app.json" [] world⟩

end LayeredConfig
