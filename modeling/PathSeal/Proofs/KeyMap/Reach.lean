import Mathlib.Data.List.Infix
import PathSeal.Proofs.KeyMap.Handles
import PathSeal.Proofs.KeyMap.Location
import PathSeal.Proofs.KeyMap.Writing

/-!
# PathSeal.Proofs.KeyMap.Reach

Which entries of a table are ever used. An entry that has a bucket is: the object that is
named like its folder lies in no deeper folder, so the path that is written like the scope
goes to that entry and no other (`Scope.longest_spot`, `Scope.parse_text`).

A scope that begins with a slash is read too, as a folder of a bucket without a name. No
path has such a bucket, so the entry is never used, though its key is listed
(`selects_iff_bucket`).
-/

namespace PathSeal.KeyMap

/-- An entry is the one that a path goes to. -/
def Selects (map : KeyMap) (path : String) (entry : Scope × Key.Handle) : Prop :=
  ∃ l, Location.parse path = .ok l ∧ select map.entries l = some entry

/-- The parts of a text at its first slash have no other characters than the text, and the first
one has no slash. -/
theorem splitSlash_parts (cs : List Char) :
    '/' ∉ (splitSlash cs).1 ∧ (splitSlash cs).1 ⊆ cs ∧ (splitSlash cs).2 ⊆ cs := by
  rw [splitSlash]
  cases h : Text.splitOnce ['/'] cs with
  | none =>
    have hnot : '/' ∉ cs := by
      simpa [List.singleton_infix_iff] using (Text.splitOnce_eq_none_iff ['/'] cs).mp h
    simp [hnot]
  | some parts =>
    have hcs := Text.eq_of_splitOnce h
    have hnot := Text.not_mem_of_splitOnce h
    simp [hcs, hnot]

theorem Location.bucket_ne_of_parse {path : String} {l : Location}
    (h : Location.parse path = .ok l) : l.bucket ≠ "" := by
  rw [Location.parse_eq] at h
  split at h
  · contradiction
  · next hne =>
    rw [← Except.ok.inj h]
    simpa using hne

namespace Scope

/-! ## Scopes as they are read -/

/-- A scope as it is read: the bucket ends at the first slash, and no colon is left. -/
structure Plain (s : Scope) : Prop where
  slash_not_mem : '/' ∉ s.bucket.toList
  colon_not_mem : ':' ∉ s.bucket.toList ++ s.folder.toList

/-- A text without a colon is read so. -/
theorem plain_parse {cs : List Char} (h : ':' ∉ cs) : (parse cs).Plain := by
  obtain ⟨hslash, hbucket, hfolder⟩ := splitSlash_parts cs
  have hstrip := (Text.stripEnds_infix (· == '/') (splitSlash cs).2).subset
  constructor
  · simpa [parse] using hslash
  · have hcolon : ':' ∉ (splitSlash cs).1 := fun hmem => h (hbucket hmem)
    have hcolon' : ':' ∉ Text.stripEnds (· == '/') (splitSlash cs).2 :=
      fun hmem => h (hfolder (hstrip hmem))
    simp [parse, hcolon, hcolon']

/-- So are the scopes of all entries of a table that was read. -/
theorem plain_of_parse {s : String} {map : KeyMap} (h : KeyMap.parse s = .ok map)
    {entry : Scope × Key.Handle} (hmem : entry ∈ map.entries) : entry.1.Plain := by
  obtain ⟨items, hread, -, -, rfl⟩ := (parse_eq_ok_iff s map).mp h
  obtain ⟨text, -, htext⟩ :=
    (mem_iff_of_describe hread _).mpr ((mem_entries_ofItems items entry).mp hmem)
  obtain ⟨target, key, hsplit, -, htarget⟩ := (readEntry_eq_ok_iff text _).mp htext
  have hcolon : ':' ∉ target := by
    rw [splitEntry] at hsplit
    cases hparts : Text.splitOnce [':'] text with
    | none => simp [hparts] at hsplit
    | some parts =>
      have hnot := Text.not_mem_of_splitOnce hparts
      have hstrip := (Text.stripEnds_infix Text.isBlank parts.1).subset
      rw [hparts] at hsplit
      dsimp only at hsplit
      split at hsplit
      · contradiction
      · obtain ⟨rfl, -⟩ := Prod.mk.inj (Except.ok.inj hsplit)
        exact fun hmem => hnot (hstrip hmem)
  rw [readTarget] at htarget
  split at htarget
  · contradiction
  · rw [← Option.some.inj htarget]
    exact plain_parse hcolon

/-! ## The object named like a folder -/

/-- The object that is named like the folder. -/
def spot (s : Scope) : Location := ⟨s.bucket, s.folder⟩

/-- A scope that has a bucket is read as a path to that object. -/
theorem Plain.parse_text {s : Scope} (h : s.Plain) (hne : s.bucket ≠ "") :
    Location.parse s.text = .ok s.spot := by
  have hnone : Text.splitOnce Location.schemeEnd s.text.toList = none := by
    rw [Text.splitOnce_eq_none_iff]
    exact Text.not_infix_of_not_mem (not_mem_text (by decide) h.colon_not_mem)
  have hbody : Location.body s.text = s.text.toList := by
    rw [Location.body_eq, hnone]
    rfl
  have hsplit : splitSlash s.text.toList = (s.bucket.toList, s.folder.toList) := by
    rw [toList_text]
    split
    · next hfolder => rw [splitSlash_of_not_mem h.slash_not_mem, hfolder, String.toList_empty]
    · rw [splitSlash_append h.slash_not_mem]
  have hbucket : s.bucket.toList ≠ [] := by simpa using hne
  rw [Location.parse_eq, hbody, hsplit, if_neg hbucket, String.ofList_toList, String.ofList_toList,
    spot]

/-- A scope covers the object that is named like its folder. -/
theorem covers_spot (s : Scope) : s.Covers s.spot := by
  refine ⟨rfl, ?_⟩
  rw [segments, spot]
  split
  · exact List.nil_prefix
  · exact List.prefix_refl _

/-- Any other scope that covers this object has fewer segments. -/
theorem length_segments_lt {s t : Scope} (h : t.Covers s.spot) (hne : t ≠ s) :
    t.segments.length < s.segments.length := by
  obtain ⟨hbucket, hprefix⟩ := h
  have hfolder : t.folder ≠ s.folder := by
    intro heq
    cases s
    cases t
    exact hne (by simp_all [spot])
  simp only [segments, spot] at hprefix ⊢
  by_cases ht : t.folder = ""
  · -- The other scope is the whole bucket, so this one is a folder of it.
    have hs : s.folder ≠ "" := fun heq => hfolder (ht.trans heq.symm)
    have hpos := List.length_pos_of_ne_nil (List.splitOn_ne_nil '/' s.folder.toList)
    simpa [ht, hs] using hpos
  · rw [if_neg ht] at hprefix ⊢
    rcases (Text.splitOn_prefix_iff '/' _ _).mp hprefix with heq | ⟨rest, heq⟩
    · exact absurd (String.toList_inj.mp heq.symm) hfolder
    · have hs : s.folder ≠ "" := by
        intro hempty
        simp [hempty] at heq
      have hpos := List.length_pos_of_ne_nil (List.splitOn_ne_nil '/' rest)
      rw [if_neg hs, heq, List.splitOn_append_cons_self, List.length_append]
      omega

/-- Among entries of which no scope occurs twice, each one is the one with the most segments for
that object. -/
theorem longest_spot {entries : List (Scope × Key.Handle)} (hnodup : (entries.map (·.1)).Nodup)
    {entry : Scope × Key.Handle} (hmem : entry ∈ entries) :
    Longest (· ∈ entries) entry.1.spot entry := by
  refine ⟨hmem, covers_spot entry.1, ?_⟩
  intro other hother hne hcovers
  apply length_segments_lt hcovers
  intro heq
  exact hne (List.inj_on_of_nodup_map hnodup hother hmem heq)

end Scope

/-! ## Entries that are used -/

/-- The entry that a path goes to is one of the table, has a bucket, and gives the path its key. -/
theorem Selects.bucket_ne {map : KeyMap} {path : String} {entry : Scope × Key.Handle}
    (h : map.Selects path entry) (hglobal : map.globalKey = none) :
    entry ∈ map.entries ∧ entry.1.bucket ≠ "" ∧ map.resolve path = .ok entry.2 := by
  obtain ⟨l, hparse, hselect⟩ := h
  obtain ⟨hmem, hcovers, -⟩ := longest_of_select map.entries l hselect
  have hne := Location.bucket_ne_of_parse hparse
  rw [← hcovers.1] at hne
  refine ⟨hmem, hne, ?_⟩
  rw [resolve_of_parse_ok hglobal hparse, hselect]

/-- A key of a path is that of the entry that the path goes to. -/
theorem exists_selects_of_resolve {map : KeyMap} {path : String} {key : Key.Handle}
    (hglobal : map.globalKey = none) (h : map.resolve path = .ok key) :
    ∃ entry, map.Selects path entry ∧ entry.2 = key := by
  rcases Location.parse_cases path with ⟨-, hparse⟩ | ⟨-, l, hparse⟩
  · rw [resolve_of_parse_error hglobal hparse] at h
    contradiction
  · rw [resolve_of_parse_ok hglobal hparse] at h
    cases hselect : select map.entries l with
    | none => simp [hselect] at h
    | some entry =>
      rw [hselect] at h
      exact ⟨entry, ⟨l, hparse, hselect⟩, Except.ok.inj h⟩

/-- Without a global key, an entry is used exactly if its scope has a bucket. Then the path that is
written like the scope goes to it. So a listed key is used exactly if it is that of some entry with
a bucket. -/
theorem selects_iff_bucket {s : String} {map : KeyMap} (h : parse s = .ok map)
    (hglobal : map.globalKey = none) :
    (∀ entry ∈ map.entries,
      ((∃ path, map.Selects path entry ∧ map.resolve path = .ok entry.2) ↔
        entry.1.bucket ≠ "") ∧
      (entry.1.bucket ≠ "" → map.Selects entry.1.text entry)) ∧
    ∀ key ∈ map.handles, (∃ path, map.resolve path = .ok key) ↔
      ∃ scope, (scope, key) ∈ map.entries ∧ scope.bucket ≠ "" := by
  have hnodup : (map.entries.map (·.1)).Nodup := by
    obtain ⟨items, -, hitems, -, rfl⟩ := (parse_eq_ok_iff s map).mp h
    exact nodup_entries_ofItems hitems
  have hselects {entry : Scope × Key.Handle} (hmem : entry ∈ map.entries)
      (hne : entry.1.bucket ≠ "") : map.Selects entry.1.text entry := by
    have hparse := (Scope.plain_of_parse h hmem).parse_text hne
    have hlongest := Scope.longest_spot hnodup hmem
    exact ⟨_, hparse, (select_eq_some_iff map.entries _ hnodup entry).mpr hlongest⟩
  refine ⟨?_, ?_⟩
  · intro entry hmem
    refine ⟨⟨?_, ?_⟩, hselects hmem⟩
    · rintro ⟨path, hpath, -⟩
      exact (hpath.bucket_ne hglobal).2.1
    · intro hne
      have hpath := hselects hmem hne
      exact ⟨_, hpath, (hpath.bucket_ne hglobal).2.2⟩
  · intro key _
    constructor
    · rintro ⟨path, hpath⟩
      obtain ⟨entry, hselect, rfl⟩ := exists_selects_of_resolve hglobal hpath
      obtain ⟨hmem, hne, -⟩ := hselect.bucket_ne hglobal
      exact ⟨entry.1, hmem, hne⟩
    · rintro ⟨scope, hmem, hne⟩
      exact ⟨_, ((hselects hmem hne).bucket_ne hglobal).2.2⟩

/-- A folder below a whole bucket is used, and so is the bucket. -/
theorem selects_iff_bucket_nested :
    ∃ map, parse "data:k1,data/a/b:aws-kms://k2" = .ok map ∧ map.globalKey = none ∧
      map.Selects "data/a/b" (⟨"data", "a/b"⟩, ⟨.aws, "k2"⟩) ∧
      ∃ path, map.resolve path = .ok ⟨.gcp, "k1"⟩ := by
  let map : KeyMap :=
    ⟨none, [(⟨"data", ""⟩, ⟨.gcp, "k1"⟩), (⟨"data", "a/b"⟩, ⟨.aws, "k2"⟩)]⟩
  have hparse : parse "data:k1,data/a/b:aws-kms://k2" = .ok map := rfl
  have hne : "data" ≠ "" := by decide
  obtain ⟨hentries, hkeys⟩ := selects_iff_bucket hparse rfl
  have hfolder : (⟨"data", "a/b"⟩, ⟨.aws, "k2"⟩) ∈ map.entries := .tail _ (.head _)
  have hbucket : (⟨"data", ""⟩, ⟨.gcp, "k1"⟩) ∈ map.entries := .head _
  have hlisted : ⟨.gcp, "k1"⟩ ∈ map.handles := (mem_handles_iff map _).mpr (.inr ⟨_, hbucket⟩)
  exact ⟨map, hparse, rfl, (hentries _ hfolder).2 hne, (hkeys _ hlisted).mpr ⟨_, hbucket, hne⟩⟩

/-- A scope that begins with a slash is accepted and its key is listed, but no path has it. -/
theorem resolve_ne_of_slash :
    ∃ map, parse "/x:k1,data:k2" = .ok map ∧ map.globalKey = none ∧
      (⟨"", "x"⟩, ⟨.gcp, "k1"⟩) ∈ map.entries ∧ ⟨.gcp, "k1"⟩ ∈ map.handles ∧
      ∀ path, map.resolve path ≠ .ok ⟨.gcp, "k1"⟩ ∧
        ¬map.Selects path (⟨"", "x"⟩, ⟨.gcp, "k1"⟩) := by
  let map : KeyMap := ⟨none, [(⟨"", "x"⟩, ⟨.gcp, "k1"⟩), (⟨"data", ""⟩, ⟨.gcp, "k2"⟩)]⟩
  have hentry : (⟨"", "x"⟩, ⟨.gcp, "k1"⟩) ∈ map.entries := .head _
  have hlisted : ⟨.gcp, "k1"⟩ ∈ map.handles := (mem_handles_iff map _).mpr (.inr ⟨_, hentry⟩)
  refine ⟨map, rfl, rfl, hentry, hlisted, fun path => ⟨?_, ?_⟩⟩
  · intro hpath
    obtain ⟨entry, hselect, hkey⟩ := exists_selects_of_resolve rfl hpath
    obtain ⟨hmem, hne, -⟩ := hselect.bucket_ne rfl
    simp [map] at hmem
    rcases hmem with rfl | rfl
    · exact hne rfl
    · simp at hkey
  · intro hselect
    exact (hselect.bucket_ne rfl).2.1 rfl

end PathSeal.KeyMap
