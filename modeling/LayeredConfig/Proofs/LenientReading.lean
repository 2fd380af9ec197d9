import LayeredConfig.Proofs.CodeEscapes

/-!
A strict and a lenient reading take the same escaped keys and values from a content. The lenient
one decodes each of them by itself, and keeps as it is written what cannot be decoded. So both
give the same properties wherever the strict reading succeeds, and it fails exactly if the
lenient one has kept something. What is kept in one line reaches no other line, except that the
last line of a key counts.
-/

namespace LayeredConfig.Properties

open Traversal

/-- What a lenient reading makes of an escaped text. -/
inductive KeptAs (text : List Char) : String → Prop
  | decoded {kept : String} : unescape text = .ok kept.toList → KeptAs text kept
  | literally {malformed : MalformedEscape} :
      unescape text = .error malformed → KeptAs text (String.ofList text)

theorem keptAs_iff {text : List Char} {kept : String} :
    KeptAs text kept ↔ String.ofList (unescapeLeniently text) = kept := by
  rw [unescapeLeniently]
  constructor
  · intro keeps
    cases keeps with
    | decoded read => rw [read, String.ofList_toList]
    | literally failed => rw [failed]
  · intro same
    cases read : unescape text with
    | ok decoded =>
        rw [read] at same
        refine .decoded ?_
        rw [read, ← same, String.toList_ofList]
    | error malformed =>
        rw [read] at same
        rw [← same]
        exact .literally read

/-- Decoding makes a text shorter if there is a backslash in it. -/
theorem length_of_unescape {text decoded : List Char} (read : unescape text = .ok decoded) :
    decoded.length ≤ text.length ∧ ('\\' ∈ text → decoded.length < text.length) := by
  fun_induction unescape text generalizing decoded with
  | case1 =>
      cases read
      simp
  | case2 a b c d rest code given inductionHypothesis =>
      obtain ⟨shorter, restRead, rfl⟩ := map_eq_ok_iff.mp read
      have bound := (inductionHypothesis restRead).1
      simp only [List.length_cons]
      omega
  | case3 => cases read
  | case4 => cases read
  | case5 letter rest _ _ inductionHypothesis =>
      obtain ⟨shorter, restRead, rfl⟩ := map_eq_ok_iff.mp read
      have bound := (inductionHypothesis restRead).1
      simp only [List.length_cons]
      omega
  | case6 =>
      cases read
      simp
  | case7 c rest _ _ notPair notLast inductionHypothesis =>
      obtain ⟨shorter, restRead, rfl⟩ := map_eq_ok_iff.mp read
      have bound := inductionHypothesis restRead
      have notBackslash := Ne.symm (ne_backslash_of_token notPair notLast)
      simp only [List.length_cons, List.mem_cons, notBackslash, false_or,
        Nat.succ_le_succ_iff, Nat.succ_lt_succ_iff]
      exact bound

/-- A text with a backslash in it that comes out as it is written. -/
def KeptLiterally (text : List Char) : Prop :=
  '\\' ∈ text ∧ unescapeLeniently text = text

theorem keptLiterally_iff {text : List Char} :
    KeptLiterally text ↔ ∃ malformed, unescape text = .error malformed := by
  constructor
  · rintro ⟨backslash, same⟩
    cases read : unescape text with
    | error malformed => exact ⟨malformed, rfl⟩
    | ok decoded =>
        rw [unescapeLeniently, read] at same
        have shorter := (length_of_unescape read).2 backslash
        have sameLength := congrArg List.length same
        exact absurd sameLength (Nat.ne_of_lt shorter)
  · rintro ⟨malformed, failed⟩
    constructor
    · by_contra noBackslash
      rw [unescape_of_noBackslash noBackslash] at failed
      cases failed
    · rw [unescapeLeniently, failed]

theorem decodeEntryLeniently_of_decodeEntry {raw : List Char × List Char}
    {entry : String × String} (decoded : decodeEntry raw = .ok entry) :
    decodeEntryLeniently raw = entry := by
  have reads := entryReads_of_decodeEntry decoded
  have key := keptAs_iff.mp (.decoded reads.key)
  have value := keptAs_iff.mp (.decoded reads.value)
  rw [decodeEntryLeniently, key, value]

/-- Where a strict reading succeeds, the lenient one gives the same properties. -/
theorem parseLeniently_of_parse {content : String} {properties : NameMap String}
    (read : parse content = .ok properties) : parseLeniently content = properties := by
  obtain ⟨entries, decoded, rfl⟩ := map_eq_ok_iff.mp read
  have paired := mapM_eq_ok_iff.mp decoded
  have same : (rawEntries content).map decodeEntryLeniently = entries := by
    rw [← List.forall₂_eq_eq_eq, List.forall₂_map_left_iff]
    exact paired.imp fun _ _ => decodeEntryLeniently_of_decodeEntry
  rw [parseLeniently, same]

theorem mem_keys_lenient_iff {lines : List (List Char × List Char)} {name : String} :
    name ∈ Entries.keys (lines.map decodeEntryLeniently) ↔ ∃ line ∈ lines, KeptAs line.1 name := by
  rw [Entries.keys, List.map_map, List.mem_map]
  simp only [keptAs_iff, Function.comp_apply, decodeEntryLeniently]

/-- The last line with a key says what its value is. -/
theorem find?_parseLeniently_eq_some_iff {content name value : String} :
    (parseLeniently content).find? name = some value ↔
      ∃ before line after, rawEntries content = before ++ line :: after ∧
        KeptAs line.1 name ∧ KeptAs line.2 value ∧ ∀ later ∈ after, ¬ KeptAs later.1 name := by
  rw [parseLeniently, NameMap.find?_ofList_eq_some_iff]
  constructor
  · rintro ⟨first, last, split, silent⟩
    obtain ⟨before, remainder, lines, rfl, tail⟩ := List.map_eq_append_iff.mp split
    obtain ⟨line, after, rfl, entry, rfl⟩ := List.map_eq_cons_iff.mp tail
    obtain ⟨key, kept⟩ := Prod.mk.inj entry
    refine ⟨before, line, after, lines, keptAs_iff.mpr key, keptAs_iff.mpr kept, ?_⟩
    intro later member its
    exact silent (mem_keys_lenient_iff.mpr ⟨later, member, its⟩)
  · rintro ⟨before, line, after, lines, key, kept, silent⟩
    refine ⟨before.map decodeEntryLeniently, after.map decodeEntryLeniently, ?_, ?_⟩
    · rw [lines, List.map_append, List.map_cons, decodeEntryLeniently, keptAs_iff.mp key,
        keptAs_iff.mp kept]
    · intro member
      obtain ⟨later, isLater, its⟩ := mem_keys_lenient_iff.mp member
      exact silent later isLater its

theorem isSome_find?_parseLeniently_iff {content name : String} :
    ((parseLeniently content).find? name).isSome ↔
      ∃ line ∈ rawEntries content, KeptAs line.1 name := by
  rw [parseLeniently, NameMap.find?_ofList, Entries.find?_isSome, Entries.keys,
    List.map_reverse, List.mem_reverse, ← mem_keys_lenient_iff, Entries.keys]

/-- Lines that do not have a name as their key may be put in, taken out and changed without a
consequence for that name. -/
theorem find?_parseLeniently_of_silent {content name : String}
    {before lines after : List (List Char × List Char)}
    (split : rawEntries content = before ++ lines ++ after)
    (silent : ∀ line ∈ lines, ¬ KeptAs line.1 name) :
    (parseLeniently content).find? name =
      (NameMap.ofList ((before ++ after).map decodeEntryLeniently)).find? name := by
  have absent : (NameMap.ofList (lines.map decodeEntryLeniently)).find? name = none := by
    rw [← Option.not_isSome_iff_eq_none, NameMap.find?_ofList, Entries.find?_isSome,
      Entries.keys, List.map_reverse, List.mem_reverse]
    intro member
    obtain ⟨line, isLine, its⟩ := mem_keys_lenient_iff.mp member
    exact silent line isLine its
  rw [parseLeniently, split]
  simp only [List.map_append, NameMap.find?_ofList_append, absent, Option.none_or]

theorem exists_parse_error_iff {content : String} :
    (∃ malformed, parse content = .error malformed) ↔
      ∃ text ∈ rawTexts content, KeptLiterally text := by
  have fails : (∃ malformed, parse content = .error malformed) ↔
      ¬ ∃ properties, parse content = .ok properties := by
    cases parse content <;> simp
  have rejected (text : List Char) : KeptLiterally text ↔ ¬ WellFormed text := by
    rw [keptLiterally_iff, ← exists_unescape_iff]
    cases unescape text <;> simp
  rw [fails, exists_parse_iff]
  simp only [rejected, not_forall, exists_prop]

/-- The lenient reading of a content is its strict reading where that succeeds. In general the
last line with a key gives it its value; a key and a value are each decoded, or kept as they are
written if they cannot be decoded, and the strict reading fails exactly if one of them was kept
so. The value of a line has no influence on what is defined, and a line has none on any name
that is not its key. -/
theorem parseLeniently_keeps_malformed (content : String) :
    (∀ properties, parse content = .ok properties → parseLeniently content = properties) ∧
      (∀ name value,
        (parseLeniently content).find? name = some value ↔
          ∃ before line after, rawEntries content = before ++ line :: after ∧
            KeptAs line.1 name ∧ KeptAs line.2 value ∧
              ∀ later ∈ after, ¬ KeptAs later.1 name) ∧
      ((∃ malformed, parse content = .error malformed) ↔
        ∃ text ∈ rawTexts content, KeptLiterally text) ∧
      (∀ other before key value otherValue after,
        rawEntries content = before ++ (key, value) :: after →
          rawEntries other = before ++ (key, otherValue) :: after →
            ∀ name, ((parseLeniently other).find? name).isSome =
              ((parseLeniently content).find? name).isSome) ∧
      ∀ other before lines otherLines after name,
        rawEntries content = before ++ lines ++ after →
          rawEntries other = before ++ otherLines ++ after →
            (∀ line ∈ lines ++ otherLines, ¬ KeptAs line.1 name) →
              (parseLeniently other).find? name = (parseLeniently content).find? name := by
  refine ⟨fun properties => parseLeniently_of_parse, ?_, exists_parse_error_iff, ?_, ?_⟩
  · intro name value
    exact find?_parseLeniently_eq_some_iff
  · intro other before key value otherValue after lines otherLines name
    rw [Bool.eq_iff_iff, isSome_find?_parseLeniently_iff, isSome_find?_parseLeniently_iff,
      lines, otherLines]
    simp only [List.mem_append, List.mem_cons, or_and_right, exists_or, exists_eq_left]
  · intro other before lines otherLines after name split otherSplit silent
    have linesSilent (line : List Char × List Char) (member : line ∈ lines) :
        ¬ KeptAs line.1 name :=
      silent line (List.mem_append_left _ member)
    have otherSilent (line : List Char × List Char) (member : line ∈ otherLines) :
        ¬ KeptAs line.1 name :=
      silent line (List.mem_append_right _ member)
    rw [find?_parseLeniently_of_silent split linesSilent,
      find?_parseLeniently_of_silent otherSplit otherSilent]

end LayeredConfig.Properties
