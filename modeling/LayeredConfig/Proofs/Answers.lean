import LayeredConfig.Proofs.FlattenedDocument
import LayeredConfig.Proofs.LastWord
import LayeredConfig.Proofs.SortedNames

/-!
Everything that a configuration answers, single values, typed values, names and the tree that it
is bound from, is decided by the first of its sources that has something to say about it. So two
configurations with the same converters answer alike as soon as the same is said first in both,
whatever is said again further down.
-/

namespace LayeredConfig

/-- A source and what it says at a moment. -/
structure View where
  source : Source
  value? : String → Option String
  properties : NameMap String

def Source.view (world : World) (source : Source) : View where
  source := source
  value? := source.value? world
  properties := source.properties world

def Config.views (config : Config) (world : World) : List View :=
  config.sources.map (Source.view world)

/-- Whatever is looked for, the first of both lists to have it has the same. -/
def SameFirst (left right : List View) : Prop :=
  ∀ {β : Type} (pick : View → Option β), left.findSome? pick = right.findSome? pick

namespace Tree

/-- A listing of the properties of a source: in any order if no two names get in each other's way,
and otherwise in the order of an enumeration. -/
def Lists (enumeration : Enumeration) (source : Source) (properties : NameMap String)
    (listing : List (String × String)) : Prop :=
  listing = enumeration.list source properties ∨
    (Unambiguous properties ∧ listing.Perm properties.entries)

theorem Lists.lastWord?_eq {enumeration : Enumeration} {source : Source}
    {properties : NameMap String} {listing : List (String × String)}
    (lists : Lists enumeration source properties listing) (path : List String) :
    lastWord? path listing = lastWord? path (enumeration.list source properties) := by
  rcases lists with rfl | ⟨unambiguous, listed⟩
  · rfl
  · rw [lastWord?_eq_of_perm unambiguous listed,
      lastWord?_eq_of_perm unambiguous (enumeration.perm source properties)]

/-- The text at a path of a merged tree is the last word of the first view with one. -/
theorem textAt?_merge_of_lists
    {enumeration : Enumeration} {world : World} {sources : List Source}
    {listings : List (List (String × String))}
    (listed : List.Forall₂
      (fun source listing => Lists enumeration source (source.properties world) listing)
      sources listings)
    (path : List String) :
    (merge listings).textAt? path =
      ((sources.map (Source.view world)).findSome? fun view =>
        lastWord? path (enumeration.list view.source view.properties)).getD none := by
  rw [textAt?_merge]
  congr 1
  induction listed with
  | nil =>
      rfl
  | cons lists _ inductionHypothesis =>
      rw [List.map_cons, List.findSome?_cons, List.findSome?_cons, inductionHypothesis,
        lists.lastWord?_eq path]
      rfl

end Tree

namespace Config

/-- One configuration in one world answers like another one in another world. Where names get in
each other's way, both have to enumerate them in one order, whichever that is. -/
structure AnswersAlike
    (left : Config) (before : World) (right : Config) (after : World) : Prop where
  rawValue? : ∀ key, left.rawValue? before key = right.rawValue? after key
  optionalValue : ∀ target key,
    left.optionalValue before target key = right.optionalValue after target key
  value : ∀ target key, left.value before target key = right.value after target key
  propertyNames : left.propertyNames before = right.propertyNames after
  tree : ∀ enumeration listings others,
    List.Forall₂
      (fun source listing => Tree.Lists enumeration source (source.properties before) listing)
      left.sources listings →
    List.Forall₂
      (fun source listing => Tree.Lists enumeration source (source.properties after) listing)
      right.sources others →
    Tree.Agrees (Tree.merge listings) (Tree.merge others)

theorem rawValue?_eq_findSome?_views
    (config : Config) (world : World) (key : String) :
    config.rawValue? world key = (config.views world).findSome? fun view => view.value? key := by
  rw [Config.rawValue?, views, List.findSome?_map]
  rfl

theorem mem_propertyNames_iff_views
    {config : Config} {world : World} {name : String} :
    name ∈ config.propertyNames world ↔
      ((config.views world).findSome? fun view =>
        if name ∈ view.properties.names then some () else none).isSome := by
  rw [mem_propertyNames, views, List.findSome?_map, List.findSome?_isSome_iff]
  have listed (source : Source) :
      name ∈ (source.properties world).names ↔
        (if name ∈ (source.view world).properties.names then some () else none).isSome := by
    by_cases holds : name ∈ (source.properties world).names
    · simp [Source.view, holds]
    · simp [Source.view, holds]
  simp only [listed, Function.comp_apply]

/-- What is said first decides every answer. -/
theorem answersAlike_of_sameFirst
    {left right : Config} {before after : World}
    (registered : left.registered = right.registered)
    (same : SameFirst (left.views before) (right.views after)) :
    AnswersAlike left before right after := by
  have raw (key : String) : left.rawValue? before key = right.rawValue? after key := by
    rw [rawValue?_eq_findSome?_views, rawValue?_eq_findSome?_views]
    exact same _
  have converter (target : ValueType) : left.converter? target = right.converter? target := by
    rw [converter?, converter?, registered]
  have optional (target : ValueType) (key : String) :
      left.optionalValue before target key = right.optionalValue after target key := by
    rw [optionalValue, optionalValue, raw]
    cases right.rawValue? after key with
    | none => rfl
    | some found => simp only [convert, converter]
  refine ⟨raw, optional, ?_, ?_, ?_⟩
  · intro target key
    rw [value, value, optional]
  · apply sortedNames_eq_of_mem_iff
    intro name
    have names : name ∈ left.propertyNames before ↔ name ∈ right.propertyNames after := by
      rw [mem_propertyNames_iff_views, mem_propertyNames_iff_views, same]
    rw [propertyNames, propertyNames, mem_sortedNames, mem_sortedNames] at names
    exact names
  · intro enumeration listings others leftListed rightListed
    refine Tree.agrees_of_same_texts (Tree.filled_merge listings) (Tree.filled_merge others)
      (Tree.distinct_merge listings) (Tree.distinct_merge others) ?_
    intro path text
    have sameText : (Tree.merge listings).textAt? path = (Tree.merge others).textAt? path := by
      rw [Tree.textAt?_merge_of_lists leftListed, Tree.textAt?_merge_of_lists rightListed]
      exact congrArg (Option.getD · none) (same _)
    have sameLeaf : (Tree.merge listings).at? path = some (.leaf text) ↔
        (Tree.merge others).at? path = some (.leaf text) := by
      rw [← Tree.textAt?_eq_some_iff, ← Tree.textAt?_eq_some_iff, sameText]
    exact sameLeaf

end Config

end LayeredConfig
