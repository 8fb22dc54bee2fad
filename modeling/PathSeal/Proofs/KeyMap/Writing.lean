import PathSeal.Proofs.Key.Handle
import PathSeal.Proofs.KeyMap.Reading

/-!
# PathSeal.Proofs.KeyMap.Writing

How a list of items can be written, so that the text is read as that list. Between commas
stand the items and any number of blank pieces. An item is its target, a colon and its
key, each with any white space around it; slashes after a scope do not count, and a Cloud
KMS key needs no scheme if none could be read in its resource.

Every such text of items that are listed once is read as their table (`parse_of_writes`).
The proof goes along the reading of an entry. The white space around it is taken away,
the first colon is the one after the target since a target has none, and target and key
have no white space at their ends.
-/

namespace PathSeal.KeyMap

/-! ## What can be written -/

/-- A scope that is read as it is written: as a whole, and with no separators in it. -/
structure Scope.Writable (s : Scope) : Prop where
  bucket_ne : s.bucket ≠ ""
  slash_not_mem : '/' ∉ s.bucket.toList
  folder_ends : Text.BareEnds (· == '/') s.folder.toList
  comma_not_mem : ',' ∉ s.bucket.toList ++ s.folder.toList
  colon_not_mem : ':' ∉ s.bucket.toList ++ s.folder.toList
  text_ends : Text.BareEnds Text.isBlank s.text.toList
  text_ne : s.text ≠ globalBucket

/-- An item that is read as it is written: the scope is, and the key is that of some text and has no
comma. -/
structure Writable (item : Item) : Prop where
  scope : ∀ scope ∈ item.1, scope.Writable
  key : item.2.Named
  comma_not_mem : ',' ∉ item.2.uri.toList

/-! ## Ways of writing -/

/-- Everything is written in one way, a scope with any number of slashes after it. -/
inductive WritesTarget : Option Scope → List Char → Prop where
  | everything : WritesTarget none globalBucket.toList
  | scope (scope : Scope) (slashes : Nat) :
    WritesTarget (some scope) (scope.text.toList ++ List.replicate slashes '/')

/-- A key is written as its URI. The scheme of a Cloud KMS key can be left out if its resource does
not begin with white space or have an end of a scheme in it. -/
inductive WritesKey (key : Key.Handle) : List Char → Prop where
  | uri : WritesKey key key.uri.toList
  | bare (hscheme : key.scheme = .gcp)
    (hhead : ∀ c ∈ key.resource.toList.head?, Text.isBlank c = false)
    (hseparator : ¬Key.Handle.separator <:+: key.resource.toList) :
    WritesKey key key.resource.toList

/-- An item is written as its target and its key, with white space around both. -/
inductive WritesItem (item : Item) : List Char → Prop where
  | parts {target key before after before' after' : List Char}
    (htarget : WritesTarget item.1 target) (hkey : WritesKey item.2 key)
    (hbefore : Text.Blank before) (hafter : Text.Blank after)
    (hbefore' : Text.Blank before') (hafter' : Text.Blank after') :
    WritesItem item (before ++ (target ++ (after ++ ':' :: before') ++ key) ++ after')

/-- Pieces write items in their order; blank pieces may stand anywhere. -/
inductive Writes : List (List Char) → List Item → Prop where
  | nil : Writes [] []
  | blank {piece : List Char} {pieces : List (List Char)} {items : List Item}
    (hpiece : Text.Blank piece) (hpieces : Writes pieces items) : Writes (piece :: pieces) items
  | item {piece : List Char} {pieces : List (List Char)} {item : Item} {items : List Item}
    (hpiece : WritesItem item piece) (hpieces : Writes pieces items) :
    Writes (piece :: pieces) (item :: items)

/-- Text that stands between white space and commas and is not blank. -/
structure Word (cs : List Char) : Prop where
  ne : cs ≠ []
  ends : Text.BareEnds Text.isBlank cs
  comma_not_mem : ',' ∉ cs

/-! ## Targets -/

namespace Scope

theorem toList_text (s : Scope) :
    s.text.toList =
      if s.folder = "" then s.bucket.toList else s.bucket.toList ++ '/' :: s.folder.toList := by
  by_cases h : s.folder = ""
  · simp [text, h]
  · simp [text, h, toString]

/-- Between the parts of a scope stands nothing but a slash. -/
theorem not_mem_text {s : Scope} {c : Char} (hslash : c ≠ '/')
    (h : c ∉ s.bucket.toList ++ s.folder.toList) : c ∉ s.text.toList := by
  rw [List.mem_append, not_or] at h
  rw [toList_text]
  split
  · exact h.1
  · simp [h, hslash]

/-- The first slash ends the bucket; of the folder nothing but slashes around it is lost. -/
theorem parse_append {bucket : List Char} (h : '/' ∉ bucket) (folder : List Char) :
    parse (bucket ++ '/' :: folder) =
      ⟨String.ofList bucket, String.ofList (Text.stripEnds (· == '/') folder)⟩ := by
  rw [parse, splitSlash_append h]

/-- A scope is read back, with any number of slashes after it. -/
theorem Writable.parse_text {s : Scope} (h : s.Writable) (slashes : Nat) :
    Scope.parse (s.text.toList ++ List.replicate slashes '/') = s := by
  have hslashes (n : Nat) : ∀ c ∈ List.replicate n '/', (c == '/') = true :=
    List.forall_mem_replicate.mpr (.inr rfl)
  have hfolder (n : Nat) : Text.stripEnds (· == '/') (s.folder.toList ++ List.replicate n '/') =
      s.folder.toList :=
    Text.stripEnds_padded (List.forall_mem_nil _) h.folder_ends (hslashes n)
  have hself : (⟨String.ofList s.bucket.toList, String.ofList s.folder.toList⟩ : Scope) = s := by
    simp
  rw [toList_text]
  by_cases hwhole : s.folder = ""
  · have hnil : s.folder.toList = [] := by rw [hwhole, String.toList_empty]
    rw [hnil] at hfolder hself
    rw [if_pos hwhole]
    cases slashes with
    | zero =>
      rw [List.replicate_zero, List.append_nil, Scope.parse, splitSlash_of_not_mem h.slash_not_mem]
      exact hself
    | succ n =>
      have hnone : Text.stripEnds (· == '/') (List.replicate n '/') = [] := hfolder n
      rw [List.replicate_succ, parse_append h.slash_not_mem, hnone, hself]
  · rw [if_neg hwhole, List.append_assoc, List.cons_append, parse_append h.slash_not_mem,
      hfolder slashes, hself]

end Scope

/-- A scope with slashes after it does not stand for everything. -/
theorem Scope.Writable.readTarget_text {s : Scope} (h : s.Writable) (slashes : Nat) :
    readTarget (s.text.toList ++ List.replicate slashes '/') = some s := by
  have hne : String.ofList (s.text.toList ++ List.replicate slashes '/') ≠ globalBucket := by
    cases slashes with
    | zero => simpa using h.text_ne
    | succ n =>
      intro heq
      have hmem : '/' ∈ globalBucket.toList := by
        rw [← heq]
        simp
      exact absurd hmem (by decide)
  rw [readTarget, if_neg hne, h.parse_text]

section

variable {item : Item} (hitem : Writable item)

include hitem

/-- A target is a word without a colon, and is read back. -/
theorem WritesTarget.word {target : List Char} (h : WritesTarget item.1 target) :
    Word target ∧ ':' ∉ target ∧ readTarget target = item.1 := by
  obtain ⟨scope, key⟩ := item
  cases h with
  | everything => exact ⟨⟨by decide, by decide, by decide⟩, by decide, rfl⟩
  | scope scope slashes =>
    have hscope : scope.Writable := hitem.scope scope rfl
    have hne : scope.text.toList ≠ [] := by
      intro hnil
      rw [Scope.toList_text] at hnil
      split at hnil
      · exact hscope.bucket_ne (by simpa using hnil)
      · simp at hnil
    have hcomma := Scope.not_mem_text (by decide) hscope.comma_not_mem
    have hcolon := Scope.not_mem_text (by decide) hscope.colon_not_mem
    have hslashes : ∀ c ∈ List.replicate slashes '/', Text.isBlank c = false :=
      List.forall_mem_replicate.mpr (.inr rfl)
    exact ⟨⟨by simp [hne], hscope.text_ends.append hslashes, by simp [hcomma]⟩, by simp [hcolon],
      hscope.readTarget_text slashes⟩

/-! ## Keys -/

/-- A key is a word, and is read back. -/
theorem WritesKey.word {key : List Char} (h : WritesKey item.2 key) :
    Word key ∧ Key.Handle.ofTrimmed key = .ok item.2 := by
  have hcomma := hitem.comma_not_mem
  have hresource := hitem.key.resource_ne
  cases h with
  | uri =>
    have hne : item.2.uri.toList ≠ [] := by simp [Key.Handle.toList_uri, Key.Handle.separator]
    exact ⟨⟨hne, hitem.key.bareEnds_uri, hcomma⟩, Key.Handle.ofTrimmed_uri hresource⟩
  | bare hscheme hhead hseparator =>
    rw [Key.Handle.toList_uri, List.mem_append, not_or] at hcomma
    have hne : item.2.resource.toList ≠ [] := by simpa using hresource
    have hself : (⟨.gcp, String.ofList item.2.resource.toList⟩ : Key.Handle) = item.2 := by
      rw [String.ofList_toList, ← hscheme]
    have hread := Key.Handle.ofTrimmed_bare hne hseparator
    rw [hself] at hread
    exact ⟨⟨hne, ⟨hhead, hitem.key.getLast_resource⟩, hcomma.2⟩, hread⟩

end

/-! ## Entries -/

/-- An entry of two words is cut between them, if the first one has no colon in it. -/
theorem splitEntry_of_word {target key after before : List Char} (htarget : Word target)
    (hkey : Word key) (hcolon : ':' ∉ target) (hafter : Text.Blank after)
    (hbefore : Text.Blank before) :
    splitEntry (target ++ (after ++ ':' :: before) ++ key) = .ok (target, key) := by
  have hnot : ':' ∉ target ++ after := by
    rw [List.mem_append, not_or]
    exact ⟨hcolon, hafter.not_mem rfl⟩
  have hsplit := Text.splitOnce_append List.not_mem_nil (Text.not_infix_of_not_mem hnot)
    (before ++ key)
  have hentry : target ++ (after ++ ':' :: before) ++ key =
      target ++ after ++ [':'] ++ (before ++ key) := by
    simp
  have htrim : Text.trimChars (target ++ after) = target :=
    Text.stripEnds_padded (List.forall_mem_nil _) htarget.ends hafter
  have htrim' : Text.trimChars (before ++ key) = key := by
    have hpadded := Text.stripEnds_padded hbefore hkey.ends (List.forall_mem_nil _)
    rwa [List.append_nil] at hpadded
  have hne : ¬(target = [] ∨ key = []) := by simp [htarget.ne, hkey.ne]
  rw [splitEntry, hentry, hsplit]
  dsimp only
  rw [htrim, htrim', if_neg hne]

/-- A piece that writes an item has no comma in it, and without the white space around it it is read
as that item. -/
theorem WritesItem.read {item : Item} {piece : List Char} (hitem : Writable item)
    (h : WritesItem item piece) :
    ',' ∉ piece ∧ Text.trimChars piece ≠ [] ∧ readEntry (Text.trimChars piece) = .ok item := by
  obtain ⟨htarget, hkey, hbefore, hafter, hbefore', hafter'⟩ := h
  next target key before after before' after' =>
  obtain ⟨hword, hcolon, htarget⟩ := htarget.word hitem
  obtain ⟨hword', hkey⟩ := hkey.word hitem
  have hends := Text.bareEnds_append hword.ne hword.ends.1 (after ++ ':' :: before') hword'.ne
    hword'.ends.2
  have htrim : Text.trimChars (before ++ (target ++ (after ++ ':' :: before') ++ key) ++ after') =
      target ++ (after ++ ':' :: before') ++ key :=
    Text.stripEnds_padded hbefore hends hafter'
  have hsplit := splitEntry_of_word hword hword' hcolon hafter hbefore'
  have hread := (readEntry_eq_ok_iff _ item).mpr ⟨target, key, hsplit, hkey, htarget⟩
  rw [htrim]
  refine ⟨?_, by simp [hword.ne], hread⟩
  simp [hword.comma_not_mem, hword'.comma_not_mem, hbefore.not_mem, hafter.not_mem,
    hbefore'.not_mem, hafter'.not_mem, Text.isBlank]

/-! ## Texts -/

/-- Pieces that write items have no commas in them, and those that are not blank are read as the
items. -/
theorem Writes.read {pieces : List (List Char)} {items : List Item} (h : Writes pieces items)
    (hitems : ∀ item ∈ items, Writable item) :
    (∀ piece ∈ pieces, ',' ∉ piece) ∧
      Describe ((pieces.map Text.trimChars).filter (· ≠ [])) items := by
  induction h with
  | nil => exact ⟨List.forall_mem_nil _, .nil⟩
  | blank hpiece _ ih =>
    obtain ⟨hcommas, hread⟩ := ih hitems
    refine ⟨List.forall_mem_cons.mpr ⟨hpiece.not_mem rfl, hcommas⟩, ?_⟩
    rw [List.map_cons, hpiece.trimChars]
    exact hread
  | item hpiece _ ih =>
    obtain ⟨hitem, hitems⟩ := List.forall_mem_cons.mp hitems
    obtain ⟨hcommas, hread⟩ := ih hitems
    obtain ⟨hcomma, hne, hentry⟩ := hpiece.read hitem
    refine ⟨List.forall_mem_cons.mpr ⟨hcomma, hcommas⟩, ?_⟩
    rw [List.map_cons, List.filter_cons_of_pos (by simpa using hne)]
    exact .cons hentry hread

/-- Whichever way items are written, the text is read as their table: the key that is listed for
everything, and the scopes with their keys in their order. -/
theorem parse_of_writes {pieces : List (List Char)} {items : List Item} (hne : items ≠ [])
    (hnodup : (items.map (·.1)).Nodup) (hitems : ∀ item ∈ items, Writable item)
    (hwrites : Writes pieces items) :
    parse (String.ofList ([','].intercalate pieces)) =
      .ok ⟨items.lookup none, items.filterMap fun item => item.1.map (·, item.2)⟩ := by
  obtain ⟨hcommas, hread⟩ := hwrites.read hitems
  have hpieces : pieces ≠ [] := by
    rintro rfl
    cases hwrites
    contradiction
  rw [← entryTexts_intercalate hpieces hcommas] at hread
  exact (parse_eq_ok_iff _ _).mpr ⟨items, hread, hnodup, hne, rfl⟩

/-- White space, blank pieces and slashes go, and the scheme that is missing is put in. What looks
like a scheme or like white space inside of a resource stays. -/
theorem parse_of_writes_padded :
    parse "\t, data/secret// : aws-kms://arn:x://y ,*:k1,data:local-kms:// a:b/\n," =
      .ok ⟨some ⟨.gcp, "k1"⟩,
        [(⟨"data", "secret"⟩, ⟨.aws, "arn:x://y"⟩), (⟨"data", ""⟩, ⟨.inProcess, " a:b/"⟩)]⟩ := by
  let folder : Item := (some ⟨"data", "secret"⟩, ⟨.aws, "arn:x://y"⟩)
  let everything : Item := (none, ⟨.gcp, "k1"⟩)
  let bucket : Item := (some ⟨"data", ""⟩, ⟨.inProcess, " a:b/"⟩)
  have hfolder : Writable folder := by
    refine ⟨?_, ⟨"aws-kms://arn:x://y", rfl⟩, by decide +kernel⟩
    rintro scope ⟨⟩
    constructor <;> decide +kernel
  have heverything : Writable everything := ⟨by simp [everything], ⟨"k1", rfl⟩, by decide +kernel⟩
  have hbucket : Writable bucket := by
    refine ⟨?_, ⟨"local-kms:// a:b/", rfl⟩, by decide +kernel⟩
    rintro scope ⟨⟩
    constructor <;> decide +kernel
  have hends : Text.BareEnds Text.isBlank "k1".toList := by decide +kernel
  have hnone : Text.Blank [] := by decide
  have hspace : Text.Blank [' '] := by decide
  have hline : Text.Blank ['\n'] := by decide
  have hpadded : WritesItem folder " data/secret// : aws-kms://arn:x://y ".toList := by
    convert @WritesItem.parts folder _ _ _ _ _ _ (.scope ⟨"data", "secret"⟩ 2) .uri hspace hspace
      hspace hspace using 1
    decide +kernel
  have hbare : WritesItem everything "*:k1".toList := by
    convert @WritesItem.parts everything _ _ _ _ _ _ .everything
      (.bare rfl hends.1 (by decide +kernel)) hnone hnone hnone hnone using 1
    decide +kernel
  have hwhole : WritesItem bucket "data:local-kms:// a:b/\n".toList := by
    convert @WritesItem.parts bucket _ _ _ _ _ _ (.scope ⟨"data", ""⟩ 0) .uri hnone hnone hnone
      hline using 1
    decide +kernel
  have hwrites : Writes ["\t".toList, _, _, _, []] [folder, everything, bucket] :=
    .blank (by decide) (.item hpadded (.item hbare (.item hwhole (.blank hnone .nil))))
  have hitems : ∀ item ∈ [folder, everything, bucket], Writable item := by
    simp [hfolder, heverything, hbucket]
  have hparse := parse_of_writes (by simp) (by decide) hitems hwrites
  exact hparse

end PathSeal.KeyMap
