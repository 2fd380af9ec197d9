import LayeredConfig.Document.Value
import LayeredConfig.Proofs.MergedTree

/-!
The scalars and lists of a document are its leaves. Flattening writes each of them under the
names that lead to it, joined by dots. As long as names are not empty and hold no dot, the path
of a leaf can be read off its key again, and no leaf lies on the way to another.
-/

namespace LayeredConfig

/-- A name that can be one of the names of a key. -/
def KeyPart (name : String) : Prop :=
  name ≠ "" ∧ '.' ∉ name.toList

instance (name : String) : Decidable (KeyPart name) :=
  inferInstanceAs (Decidable (name ≠ "" ∧ '.' ∉ name.toList))

namespace Text

theorem pieces_of_not_mem {separator : Char} {text : List Char} (absent : separator ∉ text) :
    pieces separator text = [text] := by
  induction text with
  | nil => rfl
  | cons c rest inductionHypothesis =>
      rw [List.mem_cons, not_or] at absent
      rw [pieces, if_neg (Ne.symm absent.1), inductionHypothesis absent.2]

theorem pieces_append_separator {separator : Char} {text : List Char} (absent : separator ∉ text)
    (rest : List Char) :
    pieces separator (text ++ separator :: rest) = text :: pieces separator rest := by
  induction text with
  | nil => rw [List.nil_append, pieces, if_pos rfl]
  | cons c others inductionHypothesis =>
      rw [List.mem_cons, not_or] at absent
      rw [List.cons_append, pieces, if_neg (Ne.symm absent.1), inductionHypothesis absent.2]

/-- Names without the separator are the pieces of the text that they are joined to. -/
theorem split_intercalate {separator : Char} {names : List String} (proper : names ≠ [])
    (absent : ∀ name ∈ names, separator ∉ name.toList) :
    split separator ((String.singleton separator).intercalate names) = names := by
  induction names with
  | nil => exact absurd rfl proper
  | cons name rest inductionHypothesis =>
      obtain ⟨nameAbsent, restAbsent⟩ := List.forall_mem_cons.mp absent
      cases rest with
      | nil =>
          rw [String.intercalate_singleton, split, pieces_of_not_mem nameAbsent, List.map_singleton,
            String.ofList_toList]
      | cons next others =>
          have tail := inductionHypothesis (List.cons_ne_nil next others) restAbsent
          rw [split] at tail
          rw [String.intercalate_cons_cons, split, String.toList_append, String.toList_append,
            String.toList_singleton, List.append_assoc, List.singleton_append,
            pieces_append_separator nameAbsent, List.map_cons, String.ofList_toList, tail]

end Text

/-- The path of a key can be read off the key. -/
theorem Tree.segments?_intercalate {path : List String} (proper : path ≠ [])
    (parts : ∀ name ∈ path, KeyPart name) :
    segments? (".".intercalate path) = some path := by
  have whole : Text.split '.' (".".intercalate path) = path :=
    Text.split_intercalate proper fun name member => (parts name member).2
  have noneEmpty : path.any String.isEmpty = false := by
    rw [List.any_eq_false]
    intro name member
    simpa using (parts name member).1
  rw [segments?, whole, noneEmpty]
  rfl

namespace Document.Value

/-- The text of a leaf: that of a scalar, and of a list the texts of its items joined by
commas. -/
def leafText? : Value → Option String
  | .table _ => none
  | .list items => some (",".intercalate (items.map scalarText))
  | value => some value.scalarText

mutual

/-- The texts of the leaves of a value, with the names that lead to them. -/
def leaves : Value → List (List String × String)
  | .table entries => entriesLeaves entries
  | value => (value.leafText?.map fun text => ([], text)).toList

def entriesLeaves : List (String × Value) → List (List String × String)
  | [] => []
  | entry :: rest => entryLeaves entry ++ entriesLeaves rest

def entryLeaves : String × Value → List (List String × String)
  | (name, value) => value.leaves.map fun leaf => (name :: leaf.1, leaf.2)

end

mutual

/-- The value with the text of every leaf in place of the leaf, and without the tables that
hold no leaf at any depth. -/
def textTree? : Value → Option Tree
  | .table entries =>
    if (entriesLeaves entries).isEmpty then none else some (.table (textEntries entries))
  | value => value.leafText?.map .leaf

def textEntries : List (String × Value) → List (String × Tree)
  | [] => []
  | entry :: rest => entryTexts entry ++ textEntries rest

def entryTexts : String × Value → List (String × Tree)
  | (name, value) => (value.textTree?.map fun tree => (name, tree)).toList

end

/-- A value is a table or a leaf. -/
theorem table_or_leaf (value : Value) :
    (∃ inner, value = .table inner) ∨ ∃ text, value.leafText? = some text := by
  cases value with
  | table inner => exact Or.inl ⟨inner, rfl⟩
  | absent | truth | whole | number | text | list => exact Or.inr ⟨_, rfl⟩

theorem leaves_of_leaf {value : Value} {text : String} (leaf : value.leafText? = some text) :
    value.leaves = [([], text)] := by
  cases value with
  | table inner => cases leaf
  | absent | truth | whole | number | text | list =>
      rw [leaves, leaf]
      · rfl
      · simp

theorem textTree?_of_leaf {value : Value} {text : String} (leaf : value.leafText? = some text) :
    value.textTree? = some (.leaf text) := by
  cases value with
  | table inner => cases leaf
  | absent | truth | whole | number | text | list =>
      rw [textTree?, leaf]
      · rfl
      · simp

theorem flattenAt_of_leaf {value : Value} {text : String} (leaf : value.leafText? = some text)
    (key : String) : value.flattenAt key = [(key, text)] := by
  cases value with
  | table inner => cases leaf
  | absent | truth | whole | number | text | list =>
      obtain rfl := Option.some.inj leaf
      rw [flattenAt]
      all_goals simp

/-- Entries are proved about one after the other, and a table in them before the table that
holds it. -/
@[elab_as_elim]
theorem entriesInduction {motive : List (String × Value) → Prop} (nil : motive [])
    (cons : ∀ name value rest, (∀ inner, value = .table inner → motive inner) → motive rest →
      motive ((name, value) :: rest)) : ∀ entries, motive entries
  | [] => nil
  | (name, value) :: rest =>
    cons name value rest (fun inner _ => entriesInduction nil cons inner)
      (entriesInduction nil cons rest)
termination_by entries => sizeOf entries
decreasing_by
  · rename_i isTable
    subst isTable
    simp only [List.cons.sizeOf_spec, Prod.mk.sizeOf_spec, Value.table.sizeOf_spec]
    omega
  · simp only [List.cons.sizeOf_spec]
    omega

/-- A leaf as a property, its path joined by dots. -/
def dotted (leaf : List String × String) : String × String :=
  (".".intercalate leaf.1, leaf.2)

private theorem intercalate_joined (separator first second : String) (rest : List String) :
    separator.intercalate ((first ++ separator ++ second) :: rest) =
      separator.intercalate (first :: second :: rest) := by
  cases rest with
  | nil => rw [String.intercalate_singleton, String.intercalate_cons_cons,
      String.intercalate_singleton]
  | cons third others => simp only [String.intercalate_cons_cons, String.append_assoc]

theorem flattenEntries_eq (entries : List (String × Value)) (key : String) :
    flattenEntries key entries =
      (entriesLeaves entries).map fun leaf => (".".intercalate (key :: leaf.1), leaf.2) := by
  induction entries using entriesInduction generalizing key with
  | nil => rfl
  | cons name value rest below others =>
      have head : value.flattenAt (key ++ "." ++ name) =
          (entryLeaves (name, value)).map fun leaf =>
            (".".intercalate (key :: leaf.1), leaf.2) := by
        rw [entryLeaves, List.map_map]
        rcases value.table_or_leaf with ⟨inner, rfl⟩ | ⟨text, leaf⟩
        · rw [flattenAt, below inner rfl, leaves]
          simp only [intercalate_joined]
          rfl
        · rw [flattenAt_of_leaf leaf, leaves_of_leaf leaf, List.map_singleton, Function.comp_apply,
            ← intercalate_joined, String.intercalate_singleton]
      rw [flattenEntries, entriesLeaves, List.map_append, others, flattenEntry, head]

/-- Flattening writes down the leaves, each under its path. -/
theorem flatten_eq (entries : List (String × Value)) :
    flatten entries = (entriesLeaves entries).map dotted := by
  induction entries with
  | nil => rfl
  | cons entry rest inductionHypothesis =>
      obtain ⟨name, value⟩ := entry
      have head : value.flattenAt name = (entryLeaves (name, value)).map dotted := by
        rw [entryLeaves, List.map_map]
        rcases value.table_or_leaf with ⟨inner, rfl⟩ | ⟨text, leaf⟩
        · rw [flattenAt, flattenEntries_eq, leaves]
          rfl
        · rw [flattenAt_of_leaf leaf, leaves_of_leaf leaf, List.map_singleton, Function.comp_apply,
            dotted, String.intercalate_singleton]
      rw [flatten, List.flatMap_cons, ← flatten, inductionHypothesis, entriesLeaves,
        List.map_append, head]

/-! ## Paths of leaves -/

/-- A table that holds each name once, and only names that can be part of a key, as do the
tables in it. What lists hold does not matter. -/
inductive Nameable : List (String × Value) → Prop where
  | nil : Nameable []
  | cons {name : String} {value : Value} {rest : List (String × Value)} (part : KeyPart name)
      (fresh : name ∉ Entries.keys rest)
      (below : ∀ inner, value = .table inner → Nameable inner) (others : Nameable rest) :
      Nameable ((name, value) :: rest)

theorem mem_entryLeaves_iff {name : String} {value : Value} {leaf : List String × String} :
    leaf ∈ entryLeaves (name, value) ↔
      ∃ path, leaf.1 = name :: path ∧ (path, leaf.2) ∈ value.leaves := by
  rw [entryLeaves, List.mem_map]
  constructor
  · intro member
    obtain ⟨inner, innerMember, rfl⟩ := member
    exact ⟨inner.1, rfl, innerMember⟩
  · intro member
    obtain ⟨path, split, innerMember⟩ := member
    exact ⟨(path, leaf.2), innerMember, by rw [← split]⟩

/-- The path of a leaf begins with one of the names of the table. -/
theorem exists_head_of_mem_entriesLeaves {entries : List (String × Value)}
    {leaf : List String × String} (member : leaf ∈ entriesLeaves entries) :
    ∃ name ∈ Entries.keys entries, ∃ path, leaf.1 = name :: path := by
  induction entries with
  | nil => cases member
  | cons entry rest inductionHypothesis =>
      rw [entriesLeaves, List.mem_append] at member
      rcases member with inHead | inRest
      · obtain ⟨path, split, -⟩ := mem_entryLeaves_iff.mp inHead
        exact ⟨entry.1, List.mem_cons_self, path, split⟩
      · obtain ⟨name, nameMember, path, split⟩ := inductionHypothesis inRest
        exact ⟨name, List.mem_cons_of_mem _ nameMember, path, split⟩

theorem Nameable.parts {entries : List (String × Value)} (nameable : Nameable entries)
    {leaf : List String × String} (member : leaf ∈ entriesLeaves entries) :
    leaf.1 ≠ [] ∧ ∀ name ∈ leaf.1, KeyPart name := by
  induction nameable generalizing leaf with
  | nil => cases member
  | @cons name value rest part fresh below others belowHypothesis restHypothesis =>
      rw [entriesLeaves, List.mem_append] at member
      rcases member with inHead | inRest
      · obtain ⟨path, split, inValue⟩ := mem_entryLeaves_iff.mp inHead
        have pathParts : ∀ other ∈ path, KeyPart other := by
          rcases value.table_or_leaf with ⟨inner, rfl⟩ | ⟨text, isLeaf⟩
          · rw [leaves] at inValue
            exact (belowHypothesis inner rfl inValue).2
          · rw [leaves_of_leaf isLeaf, List.mem_singleton] at inValue
            obtain ⟨rfl, -⟩ := Prod.mk.inj inValue
            exact fun other otherMember => absurd otherMember List.not_mem_nil
        rw [split]
        exact ⟨List.cons_ne_nil name path, List.forall_mem_cons.mpr ⟨part, pathParts⟩⟩
      · exact restHypothesis inRest

/-- The key of a leaf gives its path back. -/
theorem Nameable.segments?_dotted {entries : List (String × Value)} (nameable : Nameable entries)
    {leaf : List String × String} (member : leaf ∈ entriesLeaves entries) :
    Tree.segments? (dotted leaf).1 = some leaf.1 := by
  obtain ⟨proper, parts⟩ := nameable.parts member
  exact Tree.segments?_intercalate proper parts

/-- No leaf lies on the way to another. -/
theorem Nameable.apart {entries : List (String × Value)} (nameable : Nameable entries) :
    (entriesLeaves entries).Pairwise fun first second => ¬ Tree.Comparable first.1 second.1 := by
  induction nameable with
  | nil => exact List.Pairwise.nil
  | @cons name value rest part fresh below others belowHypothesis restHypothesis =>
      rw [entriesLeaves, List.pairwise_append]
      refine ⟨?_, restHypothesis, ?_⟩
      · rw [entryLeaves, List.pairwise_map]
        simp only [Tree.comparable_cons_iff]
        rcases value.table_or_leaf with ⟨inner, rfl⟩ | ⟨text, isLeaf⟩
        · rw [leaves]
          exact belowHypothesis inner rfl
        · rw [leaves_of_leaf isLeaf]
          exact List.pairwise_singleton _ _
      · intro first inHead second inRest comparable
        obtain ⟨path, split, -⟩ := mem_entryLeaves_iff.mp inHead
        obtain ⟨other, otherMember, further, otherSplit⟩ := exists_head_of_mem_entriesLeaves inRest
        rw [split, otherSplit] at comparable
        have same : name = other := by
          rcases comparable with above | below
          · exact (List.cons_prefix_cons.mp above).1
          · exact (List.cons_prefix_cons.mp below).1.symm
        rw [same] at fresh
        exact fresh otherMember

theorem Nameable.eq_of_comparable {entries : List (String × Value)} (nameable : Nameable entries)
    {first second : List String × String} (firstMember : first ∈ entriesLeaves entries)
    (secondMember : second ∈ entriesLeaves entries)
    (comparable : Tree.Comparable first.1 second.1) : first = second := by
  have apart := nameable.apart
  have forwards : (entriesLeaves entries).Pairwise fun left right =>
      Tree.Comparable left.1 right.1 → left = right :=
    apart.imp fun leftApart comparable => absurd comparable leftApart
  have backwards : (entriesLeaves entries).Pairwise fun left right =>
      Tree.Comparable right.1 left.1 → right = left :=
    apart.imp fun leftApart comparable => absurd (Tree.comparable_comm.mp comparable) leftApart
  exact forwards.forall_of_forall_of_flip (fun _ _ _ => rfl) backwards firstMember secondMember
    comparable

/-- Leaves have different keys. -/
theorem Nameable.nodup_keys {entries : List (String × Value)} (nameable : Nameable entries) :
    (Entries.keys (flatten entries)).Nodup := by
  rw [flatten_eq, Entries.keys, List.map_map, List.nodup_iff_pairwise_ne, List.pairwise_map]
  refine nameable.apart.imp_of_mem ?_
  intro first second firstMember secondMember apart same
  have samePath := nameable.segments?_dotted firstMember
  rw [Function.comp_apply, Function.comp_apply] at same
  rw [same, nameable.segments?_dotted secondMember, Option.some.injEq] at samePath
  apply apart
  rw [samePath]
  exact Tree.comparable_refl first.1

/-- The same table, with the names of its tables enumerated in other orders. -/
inductive Reordered : List (String × Value) → List (String × Value) → Prop where
  | nil : Reordered [] []
  | cons (entry : String × Value) {rest others : List (String × Value)}
      (tail : Reordered rest others) : Reordered (entry :: rest) (entry :: others)
  | inside (name : String) {inner changed rest : List (String × Value)}
      (below : Reordered inner changed) :
      Reordered ((name, .table inner) :: rest) ((name, .table changed) :: rest)
  | swap (first second : String × Value) (rest : List (String × Value)) :
      Reordered (first :: second :: rest) (second :: first :: rest)
  | trans {first second third : List (String × Value)} (toSecond : Reordered first second)
      (toThird : Reordered second third) : Reordered first third

theorem Reordered.keys_perm {entries enumerated : List (String × Value)}
    (reordered : Reordered entries enumerated) :
    (Entries.keys entries).Perm (Entries.keys enumerated) := by
  induction reordered with
  | nil => exact List.Perm.refl []
  | cons entry tail inductionHypothesis => exact inductionHypothesis.cons entry.1
  | inside name below inductionHypothesis => exact List.Perm.refl _
  | swap first second rest => exact List.Perm.swap _ _ _
  | trans toSecond toThird firstHypothesis secondHypothesis =>
      exact firstHypothesis.trans secondHypothesis

theorem Reordered.leaves_perm {entries enumerated : List (String × Value)}
    (reordered : Reordered entries enumerated) :
    (entriesLeaves entries).Perm (entriesLeaves enumerated) := by
  induction reordered with
  | nil => exact List.Perm.refl []
  | cons entry tail inductionHypothesis => exact inductionHypothesis.append_left _
  | inside name below inductionHypothesis =>
      rw [entriesLeaves, entriesLeaves, entryLeaves, entryLeaves, leaves, leaves]
      exact (inductionHypothesis.map _).append_right _
  | swap first second rest =>
      simp only [entriesLeaves]
      exact List.perm_append_comm_assoc _ _ _
  | trans toSecond toThird firstHypothesis secondHypothesis =>
      exact firstHypothesis.trans secondHypothesis

theorem nameable_cons_iff {name : String} {value : Value} {rest : List (String × Value)} :
    Nameable ((name, value) :: rest) ↔
      KeyPart name ∧ name ∉ Entries.keys rest ∧
        (∀ inner, value = .table inner → Nameable inner) ∧ Nameable rest := by
  constructor
  · intro nameable
    cases nameable with
    | cons part fresh below others => exact ⟨part, fresh, below, others⟩
  · intro conditions
    obtain ⟨part, fresh, below, others⟩ := conditions
    exact .cons part fresh below others

theorem Reordered.nameable {entries enumerated : List (String × Value)}
    (reordered : Reordered entries enumerated) (nameable : Nameable entries) :
    Nameable enumerated := by
  induction reordered with
  | nil => exact .nil
  | cons entry tail inductionHypothesis =>
      obtain ⟨part, fresh, below, others⟩ := nameable_cons_iff.mp nameable
      rw [tail.keys_perm.mem_iff] at fresh
      exact .cons part fresh below (inductionHypothesis others)
  | @inside name inner changed rest _ inductionHypothesis =>
      obtain ⟨part, fresh, below, others⟩ := nameable_cons_iff.mp nameable
      refine .cons part fresh ?_ others
      intro table same
      cases same
      exact inductionHypothesis (below inner rfl)
  | swap first second rest =>
      obtain ⟨firstPart, firstFresh, firstBelow, others⟩ := nameable_cons_iff.mp nameable
      obtain ⟨secondPart, secondFresh, secondBelow, remaining⟩ := nameable_cons_iff.mp others
      rw [Entries.keys, List.map_cons, List.mem_cons, not_or] at firstFresh
      refine .cons secondPart ?_ secondBelow (.cons firstPart firstFresh.2 firstBelow remaining)
      rw [Entries.keys, List.map_cons, List.mem_cons, not_or]
      exact ⟨Ne.symm firstFresh.1, secondFresh⟩
  | trans toSecond toThird firstHypothesis secondHypothesis =>
      exact secondHypothesis (firstHypothesis nameable)

end Document.Value

end LayeredConfig
