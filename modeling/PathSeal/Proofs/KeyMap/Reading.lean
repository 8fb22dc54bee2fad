import Mathlib.Data.List.Forall2
import Mathlib.Data.List.Perm.Basic
import PathSeal.Proofs.KeyMap.Resolution

/-!
# PathSeal.Proofs.KeyMap.Reading

What a mapping text says. Each entry lists an item: a scope, or everything, with its
key. A text is accepted if all entries can be read, there is at least one, and no two
list the same (`parse_eq_ok_iff`); the table holds the items in their order.

So which key a path has is said by the listed items alone, whatever their order
(`resolve_longest_of_parse`).
-/

namespace PathSeal.KeyMap

/-! ## Items -/

/-- What an entry lists: a scope, or everything, and its key. -/
abbrev Item := Option Scope × Key.Handle

/-- The item that an entry describes. -/
def readEntry (entry : List Char) : Except Error Item := do
  let (scope, key) ← splitEntry entry
  let key ← match Key.Handle.ofTrimmed key with
    | .ok key => pure key
    | .error cause => throw (.invalidKey (String.ofList entry) cause)
  if String.ofList scope = globalBucket then return (none, key)
  else return (some (Scope.parse scope), key)

/-- What an entry is for, as the part before its colon says. -/
def readTarget (target : List Char) : Option Scope :=
  if String.ofList target = globalBucket then none else some (Scope.parse target)

/-- An item is read from the two parts of its entry. -/
theorem readEntry_eq_ok_iff (entry : List Char) (item : Item) :
    readEntry entry = .ok item ↔
      ∃ target text, splitEntry entry = .ok (target, text) ∧
        Key.Handle.ofTrimmed text = .ok item.2 ∧ readTarget target = item.1 := by
  rw [readEntry]
  cases splitEntry entry with
  | error e => simp [bind, Except.bind]
  | ok parts =>
    obtain ⟨target, text⟩ := parts
    cases hkey : Key.Handle.ofTrimmed text with
    | error cause => simp [bind, Except.bind, hkey, throw, throwThe, MonadExceptOf.throw]
    | ok key =>
      have hread : (if String.ofList target = globalBucket then .ok (none, key)
          else .ok (some (Scope.parse target), key) : Except Error Item) =
            .ok (readTarget target, key) := by
        rw [readTarget]
        split
        · rfl
        · rfl
      simp only [bind, Except.bind, pure, Except.pure, hkey, hread]
      constructor
      · intro h
        rw [← Except.ok.inj h]
        exact ⟨target, text, rfl, hkey, rfl⟩
      · rintro ⟨_, _, hsplit, hitem, htarget⟩
        obtain ⟨rfl, rfl⟩ := Prod.mk.inj (Except.ok.inj hsplit)
        rw [hkey] at hitem
        rw [htarget, Except.ok.inj hitem]

/-- Entries describe items one by one. -/
abbrev Describe (entries : List (List Char)) (items : List Item) : Prop :=
  List.Forall₂ (fun entry item => readEntry entry = .ok item) entries items

/-- A text lists an item if one of its entries describes it. -/
def Lists (s : String) (item : Item) : Prop :=
  ∃ entry ∈ entryTexts s, readEntry entry = .ok item

/-- What an item is listed for, as a mapping would write it. -/
def targetText : Option Scope → String
  | none => globalBucket
  | some scope => scope.text

/-- The table with an item more. -/
def addItem (map : KeyMap) : Item → Except Error KeyMap
  | (none, key) =>
    if map.globalKey.isSome then .error (.duplicateScope globalBucket)
    else .ok { map with globalKey := some key }
  | (some scope, key) =>
    if map.entries.any (·.1 == scope) then .error (.duplicateScope scope.text)
    else .ok { map with entries := map.entries ++ [(scope, key)] }

/-- An entry is read and then added. -/
theorem addEntry_eq (map : KeyMap) (entry : List Char) :
    map.addEntry entry = (readEntry entry).bind map.addItem := by
  unfold addEntry readEntry
  cases splitEntry entry with
  | error e => rfl
  | ok parts =>
    obtain ⟨scope, key⟩ := parts
    simp only [bind, Except.bind]
    cases Key.Handle.ofTrimmed key with
    | error cause => rfl
    | ok key =>
      by_cases h : String.ofList scope = globalBucket
      · simp only [pure, Except.pure, if_pos h, addItem]
        rfl
      · simp only [pure, Except.pure, if_neg h, addItem]
        rfl

/-! ## The table of some items -/

/-- The table of some items. -/
def ofItems (items : List Item) : KeyMap :=
  ⟨items.lookup none, items.filterMap fun item => item.1.map (·, item.2)⟩

section

variable (items : List Item)

/-- There is a global key if everything is listed. -/
theorem isSome_globalKey_ofItems : (ofItems items).globalKey.isSome ↔ none ∈ items.map (·.1) := by
  rw [ofItems, List.lookup_isSome_iff, List.mem_map]
  simp only [beq_iff_eq, eq_comm (a := (none : Option Scope))]

/-- The entries are the listed scopes with their keys. -/
theorem mem_entries_ofItems (entry : Scope × Key.Handle) :
    entry ∈ (ofItems items).entries ↔ (some entry.1, entry.2) ∈ items := by
  rw [ofItems, List.mem_filterMap]
  constructor
  · rintro ⟨⟨target, key⟩, hmem, hentry⟩
    obtain ⟨scope, rfl, rfl⟩ := Option.map_eq_some_iff.mp hentry
    exact hmem
  · intro hmem
    exact ⟨_, hmem, rfl⟩

/-- A scope is mapped if it is listed. -/
theorem any_entries_ofItems (scope : Scope) :
    (ofItems items).entries.any (·.1 == scope) ↔ some scope ∈ items.map (·.1) := by
  simp only [List.any_eq_true, beq_iff_eq, mem_entries_ofItems, List.mem_map]
  constructor
  · rintro ⟨entry, hmem, rfl⟩
    exact ⟨_, hmem, rfl⟩
  · rintro ⟨⟨_, key⟩, hmem, rfl⟩
    exact ⟨(scope, key), hmem, rfl⟩

/-- The table is empty only if nothing is listed. -/
theorem ofItems_empty_iff :
    (ofItems items).globalKey = none ∧ (ofItems items).entries = [] ↔ items = [] := by
  constructor
  · rintro ⟨hglobal, hentries⟩
    rw [List.eq_nil_iff_forall_not_mem]
    rintro ⟨target, key⟩ hmem
    cases target with
    | none =>
      have hsome := (isSome_globalKey_ofItems items).mpr (List.mem_map_of_mem hmem)
      rw [hglobal] at hsome
      contradiction
    | some scope =>
      have hentry := (mem_entries_ofItems items (scope, key)).mpr hmem
      rw [hentries] at hentry
      exact List.not_mem_nil hentry
  · rintro rfl
    exact ⟨rfl, rfl⟩

/-- An item is added at the end, if nothing is listed for the same yet. -/
theorem addItem_ofItems (item : Item) :
    (ofItems items).addItem item =
      if item.1 ∈ items.map (·.1) then .error (.duplicateScope (targetText item.1))
      else .ok (ofItems (items ++ [item])) := by
  obtain ⟨target, key⟩ := item
  cases target with
  | none =>
    simp only [addItem, isSome_globalKey_ofItems, targetText]
    by_cases h : none ∈ items.map (·.1)
    · rw [if_pos h, if_pos h]
    · rw [if_neg h, if_neg h]
      rw [← isSome_globalKey_ofItems, Option.not_isSome_iff_eq_none] at h
      have hlookup : items.lookup none = none := h
      simp [ofItems, List.lookup_append, hlookup]
  | some scope =>
    simp only [addItem, any_entries_ofItems, targetText]
    by_cases h : some scope ∈ items.map (·.1)
    · rw [if_pos h, if_pos h]
    · rw [if_neg h, if_neg h]
      have hlookup : [(some scope, key)].lookup none = none := rfl
      simp [ofItems, List.lookup_append, hlookup]

end

section

variable {items : List Item} (hnodup : (items.map (·.1)).Nodup)

include hnodup

/-- If nothing is listed twice, the global key is the one that is listed for everything. -/
theorem globalKey_ofItems_eq_some_iff (key : Key.Handle) :
    (ofItems items).globalKey = some key ↔ (none, key) ∈ items := by
  have hmem {key : Key.Handle} (h : (ofItems items).globalKey = some key) :
      (none, key) ∈ items := by
    obtain ⟨before, after, rfl, -⟩ := List.lookup_eq_some_iff.mp h
    exact List.mem_append_right before List.mem_cons_self
  constructor
  · exact hmem
  · intro h
    obtain ⟨found, hfound⟩ := Option.isSome_iff_exists.mp
      ((isSome_globalKey_ofItems items).mpr (List.mem_map_of_mem h))
    have heq := List.inj_on_of_nodup_map hnodup (hmem hfound) h rfl
    rw [hfound, (Prod.mk.inj heq).2]

/-- If nothing is listed twice, no scope of the table occurs twice. -/
theorem nodup_entries_ofItems : ((ofItems items).entries.map (·.1)).Nodup := by
  rw [List.Nodup, List.pairwise_map] at hnodup ⊢
  rw [ofItems, List.pairwise_filterMap]
  apply hnodup.imp
  rintro ⟨_, key⟩ ⟨_, key'⟩ hne entry hentry entry' hentry' heq
  obtain ⟨scope, rfl, rfl⟩ := Option.map_eq_some_iff.mp hentry
  obtain ⟨scope', rfl, rfl⟩ := Option.map_eq_some_iff.mp hentry'
  exact hne (congrArg some heq)

/-- If nothing is listed twice, the order of the items does not matter. -/
theorem resolve_ofItems_perm {items' : List Item} (h : items.Perm items') (path : String) :
    (ofItems items).resolve path = (ofItems items').resolve path := by
  have hnodup' := (h.map (·.1)).nodup_iff.mp hnodup
  have hglobal : (ofItems items).globalKey = (ofItems items').globalKey := by
    apply Option.ext
    intro key
    rw [globalKey_ofItems_eq_some_iff hnodup, globalKey_ofItems_eq_some_iff hnodup', h.mem_iff]
  have hentries : (ofItems items).entries.Perm (ofItems items').entries := h.filterMap _
  rw [resolve, resolve, hglobal]
  simp only [select_perm _ hentries (nodup_entries_ofItems hnodup)]

end

/-! ## Reading -/

/-- Entries are added to a table one by one: all must be readable, and none may list what is listed
already. -/
theorem foldlM_addEntry_eq_ok_iff (entries : List (List Char)) {items : List Item}
    (hnodup : (items.map (·.1)).Nodup) (map : KeyMap) :
    entries.foldlM addEntry (ofItems items) = .ok map ↔
      ∃ more, Describe entries more ∧
        ((items ++ more).map (·.1)).Nodup ∧ map = ofItems (items ++ more) := by
  induction entries generalizing items with
  | nil => simp [pure, Except.pure, eq_comm, hnodup]
  | cons entry entries ih =>
    rw [List.foldlM_cons, addEntry_eq]
    simp only [List.forall₂_cons_left_iff]
    cases hread : readEntry entry with
    | error e => simp [bind, Except.bind]
    | ok item =>
      simp only [bind, Except.bind, addItem_ofItems]
      by_cases h : item.1 ∈ items.map (·.1)
      · rw [if_pos h]
        constructor
        · intro herror
          contradiction
        · rintro ⟨_, ⟨_, more, hitem, -, rfl⟩, hmore, -⟩
          obtain rfl := Except.ok.inj hitem
          rw [List.map_append, List.map_cons, List.nodup_append] at hmore
          exact absurd rfl (hmore.2.2 _ h _ List.mem_cons_self)
      · rw [if_neg h]
        have hnodup' : ((items ++ [item]).map (·.1)).Nodup := by
          rw [List.map_append, List.map_singleton, ← List.concat_eq_append]
          exact hnodup.concat h
        dsimp only
        rw [ih hnodup']
        simp only [List.append_assoc, List.singleton_append]
        constructor
        · rintro ⟨more, hread, hmore⟩
          exact ⟨_, ⟨item, more, rfl, hread, rfl⟩, hmore⟩
        · rintro ⟨_, ⟨_, more, hitem, hread, rfl⟩, hmore⟩
          obtain rfl := Except.ok.inj hitem
          exact ⟨more, hread, hmore⟩

/-- A text is read as the table that its entries are added to, unless that stays empty. -/
theorem parse_eq_ok_iff_foldlM (s : String) (map : KeyMap) :
    parse s = .ok map ↔
      (entryTexts s).foldlM addEntry (ofItems []) = .ok map ∧
        ¬(map.globalKey = none ∧ map.entries = []) := by
  rw [parse, show (⟨none, []⟩ : KeyMap) = ofItems [] from rfl]
  cases (entryTexts s).foldlM addEntry (ofItems []) with
  | error e => simp [bind, Except.bind]
  | ok found =>
    by_cases h : found.globalKey = none ∧ found.entries = []
    · simp only [bind, Except.bind, if_pos h]
      constructor
      · intro herror
        contradiction
      · rintro ⟨hmap, hne⟩
        exact absurd (Except.ok.inj hmap ▸ h) hne
    · simp only [bind, Except.bind, if_neg h]
      constructor
      · intro hmap
        obtain rfl : found = map := Except.ok.inj hmap
        exact ⟨rfl, h⟩
      · rintro ⟨hmap, -⟩
        exact hmap

/-- A text is read as the table of the items that its entries describe, if there are any and nothing
is listed twice. -/
theorem parse_eq_ok_iff (s : String) (map : KeyMap) :
    parse s = .ok map ↔
      ∃ items, Describe (entryTexts s) items ∧ (items.map (·.1)).Nodup ∧ items ≠ [] ∧
        map = ofItems items := by
  rw [parse_eq_ok_iff_foldlM, @foldlM_addEntry_eq_ok_iff (entryTexts s) [] List.nodup_nil map]
  simp only [List.nil_append]
  constructor
  · rintro ⟨⟨items, hread, hnodup, rfl⟩, hne⟩
    exact ⟨items, hread, hnodup, mt (ofItems_empty_iff items).mpr hne, rfl⟩
  · rintro ⟨items, hread, hnodup, hne, rfl⟩
    exact ⟨⟨items, hread, hnodup, rfl⟩, mt (ofItems_empty_iff items).mp hne⟩

/-- The items that entries describe are those that some entry describes. -/
theorem mem_iff_of_describe {entries : List (List Char)} {items : List Item}
    (h : Describe entries items) (item : Item) :
    (∃ entry ∈ entries, readEntry entry = .ok item) ↔ item ∈ items := by
  induction h with
  | nil => simp
  | cons hread _ ih =>
    rw [List.exists_mem_cons_iff, hread, ih, List.mem_cons, Except.ok.injEq, eq_comm]

/-- The entries of a text are the pieces that it was joined from, as far as they are not blank. -/
theorem entryTexts_intercalate {pieces : List (List Char)} (hne : pieces ≠ [])
    (h : ∀ piece ∈ pieces, ',' ∉ piece) :
    entryTexts (String.ofList ([','].intercalate pieces)) =
      (pieces.map Text.trimChars).filter (· ≠ []) := by
  have hsplit : Text.fields (· == ',') ([','].intercalate pieces) = pieces := by
    rw [Text.fields_eq_splitOnP]
    exact List.splitOn_intercalate ',' h hne
  rw [entryTexts, String.toList_ofList, hsplit]

/-- Joining the entries in another order gives the same entries in another order. -/
theorem entryTexts_perm {s : String} {pieces : List (List Char)}
    (h : pieces.Perm (s.toList.splitOn ',')) :
    (entryTexts (String.ofList ([','].intercalate pieces))).Perm (entryTexts s) := by
  have hne : pieces ≠ [] := by
    rintro rfl
    exact List.splitOn_ne_nil _ _ (List.nil_perm.mp h)
  have hpieces : ∀ piece ∈ pieces, ',' ∉ piece := by
    intro piece hmem
    exact Text.not_mem_of_mem_splitOn ',' (h.mem_iff.mp hmem)
  rw [entryTexts_intercalate hne hpieces, entryTexts, Text.fields_eq_splitOnP]
  exact (h.map Text.trimChars).filter _

/-! ## Looking up -/

/-- The key of a path is the listed global one. If there is none, it is the key of the listed entry
that covers the object with the most segments; every other one that covers it has strictly fewer. A
path without a bucket and a path that no entry covers have no key. The same entries in any other
order are accepted too and give every path the same. -/
theorem resolve_longest_of_parse {s : String} {map : KeyMap} (h : parse s = .ok map) :
    (∀ key, Lists s (none, key) → ∀ path, map.resolve path = .ok key) ∧
    ((∀ key, ¬Lists s (none, key)) → ∀ path,
      (∀ l, Location.parse path = .ok l →
        (∀ key, map.resolve path = .ok key ↔
          ∃ scope, Longest (fun entry => Lists s (some entry.1, entry.2)) l (scope, key)) ∧
        (map.resolve path = .error (.unmapped l.bucket) ↔
          ∀ scope key, Lists s (some scope, key) → ¬scope.Covers l) ∧
        ((∃ key, map.resolve path = .ok key) ∨
          map.resolve path = .error (.unmapped l.bucket))) ∧
      (map.resolve path = .error (.invalidObjectPath path) ↔ Location.Bucketless path) ∧
      (Location.Bucketless path ↔ ∀ l, Location.parse path ≠ .ok l)) ∧
    ∀ pieces : List (List Char), pieces.Perm (s.toList.splitOn ',') →
      ∃ map', parse (String.ofList ([','].intercalate pieces)) = .ok map' ∧
        ∀ path, map'.resolve path = map.resolve path := by
  obtain ⟨items, hread, hnodup, hne, rfl⟩ := (parse_eq_ok_iff s map).mp h
  have hlists (item : Item) : Lists s item ↔ item ∈ items := mem_iff_of_describe hread item
  simp only [hlists]
  refine ⟨?_, ?_, ?_⟩
  · intro key hmem
    exact resolve_of_globalKey ((globalKey_ofItems_eq_some_iff hnodup key).mpr hmem)
  · intro hnone path
    have hglobal : (ofItems items).globalKey = none := by
      rw [Option.eq_none_iff_forall_ne_some]
      intro key hkey
      exact hnone key ((globalKey_ofItems_eq_some_iff hnodup key).mp hkey)
    have hentries : (fun entry => (some entry.1, entry.2) ∈ items) =
        (· ∈ (ofItems items).entries) := by
      funext entry
      rw [mem_entries_ofItems]
    rw [hentries]
    refine ⟨?_, resolve_eq_invalid_iff hglobal, Location.bucketless_iff path⟩
    intro l hparse
    have hok := resolve_eq_ok_iff hglobal hparse (nodup_entries_ofItems hnodup)
    have hunmapped := resolve_eq_unmapped_iff hglobal hparse
    simp only [Prod.forall, mem_entries_ofItems] at hunmapped
    refine ⟨hok, hunmapped, ?_⟩
    rw [resolve_of_parse_ok hglobal hparse]
    cases select (ofItems items).entries l with
    | none => exact .inr rfl
    | some entry => exact .inl ⟨entry.2, rfl⟩
  · intro pieces hperm
    obtain ⟨items', hread', hperm'⟩ := List.perm_comp_forall₂ (entryTexts_perm hperm) hread
    have hnodup' := (hperm'.map (·.1)).nodup_iff.mpr hnodup
    have hne' : items' ≠ [] := by
      rintro rfl
      exact hne (List.nil_perm.mp hperm')
    refine ⟨ofItems items', (parse_eq_ok_iff _ _).mpr ⟨items', hread', hnodup', hne', rfl⟩, ?_⟩
    exact resolve_ofItems_perm hnodup' hperm'

/-- Below a folder its own key, elsewhere in the bucket the other one, whichever stands first. -/
theorem resolve_longest_of_parse_nested :
    ∃ map map', parse "data:k1,data/secret/:aws-kms://k2" = .ok map ∧
      parse "data/secret/:aws-kms://k2,data:k1" = .ok map' ∧
      map'.resolve "gs://data/secret/x" = .ok ⟨.aws, "k2"⟩ ∧
      map'.resolve "gs://data/secretive" = .ok ⟨.gcp, "k1"⟩ ∧
      map'.resolve "gs://other/x" = .error (.unmapped "other") ∧
      map'.resolve "gs:///x" = .error (.invalidObjectPath "gs:///x") := by
  have hparse : parse "data:k1,data/secret/:aws-kms://k2" =
      .ok ⟨none, [(⟨"data", ""⟩, ⟨.gcp, "k1"⟩), (⟨"data", "secret"⟩, ⟨.aws, "k2"⟩)]⟩ := rfl
  have hswap : ["data/secret/:aws-kms://k2".toList, "data:k1".toList].Perm
      ("data:k1,data/secret/:aws-kms://k2".toList.splitOn ',') := by decide +kernel
  obtain ⟨map', hparse', hsame⟩ := (resolve_longest_of_parse hparse).2.2 _ hswap
  refine ⟨_, map', hparse, hparse', ?_, ?_, ?_, ?_⟩
  · rw [hsame]
    rfl
  · rw [hsame]
    rfl
  · rw [hsame]
    rfl
  · rw [hsame]
    rfl

end PathSeal.KeyMap
