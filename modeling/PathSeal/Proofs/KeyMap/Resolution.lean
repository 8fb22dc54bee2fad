import Mathlib.Data.List.Nodup
import PathSeal.KeyMap.Mapping
import PathSeal.Proofs.Text.Split

/-!
# PathSeal.Proofs.KeyMap.Resolution

Which entry of a table a location goes to. A scope covers a location if its bucket is
the same and the segments of its folder are the first ones of the object's name
(`Scope.contains_iff`), and the entry that is selected is the covering one with the
most segments (`select_eq_some_iff`).

The table itself compares folders by their bytes. That comes to the same, since all
folders that cover one object begin its name: of two such folders one begins the
other, and the longer one has more segments. If no scope occurs twice there is no tie,
so the order of the entries does not matter (`select_perm`).

For paths the same is said with what can fail before: a global key decides at once, and
a path needs a bucket (`resolve_eq_ok_iff`, `resolve_eq_unmapped_iff`,
`resolve_eq_invalid_iff`).
-/

namespace PathSeal.KeyMap

namespace Scope

/-! ## Segments -/

/-- The segments of the folder; the whole bucket has none. -/
def segments (s : Scope) : List (List Char) :=
  if s.folder = "" then [] else s.folder.toList.splitOn '/'

/-- A scope covers a location if the bucket is the same and the segments of the folder are the first
ones of the object's name. -/
def Covers (s : Scope) (l : Location) : Prop :=
  s.bucket = l.bucket ∧ s.segments <+: l.object.toList.splitOn '/'

instance (s : Scope) (l : Location) : Decidable (s.Covers l) :=
  inferInstanceAs (Decidable (_ ∧ _))

/-- A folder covers an object if the object is the folder, or goes on after it with a slash. -/
theorem covers_iff (folder object : List Char) :
    covers folder object ↔ object = folder ∨ ∃ rest, object = folder ++ '/' :: rest := by
  unfold covers
  cases h : Text.dropPrefix? folder object with
  | none =>
    have hnot (rest : List Char) : object ≠ folder ++ rest := by
      intro heq
      rw [(Text.dropPrefix?_eq_some_iff ..).mpr heq] at h
      contradiction
    have hself : object ≠ folder := by simpa using hnot []
    simp [hnot, hself]
  | some rest =>
    have heq := (Text.dropPrefix?_eq_some_iff ..).mp h
    cases rest with
    | nil => simp [heq]
    | cons c rest => simp [heq]

/-- The test for a location is that of its bucket and of its segments. -/
theorem contains_iff (s : Scope) (l : Location) : s.contains l ↔ s.Covers l := by
  rw [contains, Bool.and_eq_true, beq_iff_eq, Bool.or_eq_true, covers_iff, String.isEmpty_iff,
    ← Text.splitOn_prefix_iff, Covers, segments]
  by_cases h : s.folder = ""
  · simp [h]
  · simp [h]

/-- A folder covers no object whose name only begins alike. -/
example : ¬Covers ⟨"data", "secret"⟩ ⟨"data", "secretive/x"⟩ := by decide +kernel

/-! ## Folders that cover one object -/

/-- A folder whose segments begin those of another one is not longer, and is the same one if it is
as long. -/
theorem utf8ByteSize_of_prefix {s t : Scope} (h : s.segments <+: t.segments) :
    s.folder.utf8ByteSize ≤ t.folder.utf8ByteSize ∧
      (t.folder.utf8ByteSize ≤ s.folder.utf8ByteSize → s.folder = t.folder) := by
  -- The folder of one begins that of the other.
  obtain ⟨rest, hrest⟩ : ∃ rest, t.folder = s.folder ++ rest := by
    unfold segments at h
    by_cases hs : s.folder = ""
    · exact ⟨t.folder, by simp [hs]⟩
    · by_cases ht : t.folder = ""
      · rw [if_neg hs, if_pos ht] at h
        exact absurd (List.prefix_nil.mp h) (List.splitOn_ne_nil _ _)
      · rw [if_neg hs, if_neg ht, Text.splitOn_prefix_iff] at h
        rcases h with heq | ⟨rest, heq⟩
        · exact ⟨"", by simp [String.toList_inj.mp heq]⟩
        · refine ⟨String.ofList ('/' :: rest), String.toList_inj.mp ?_⟩
          rw [heq, String.toList_append, String.toList_ofList]
  rw [hrest, String.utf8ByteSize_append]
  refine ⟨Nat.le_add_right .., ?_⟩
  intro hle
  have hempty : rest = "" := String.utf8ByteSize_eq_zero_iff.mp (by omega)
  rw [hempty, String.append_empty]

/-- Of two scopes that cover one location, one with as many segments as the other is not shorter,
and if it is as long it is the same one. -/
theorem Covers.utf8ByteSize {s t : Scope} {l : Location} (hs : s.Covers l) (ht : t.Covers l)
    (hle : s.segments.length ≤ t.segments.length) :
    s.folder.utf8ByteSize ≤ t.folder.utf8ByteSize ∧
      (t.folder.utf8ByteSize ≤ s.folder.utf8ByteSize → s = t) := by
  have hpre := List.prefix_of_prefix_length_le hs.2 ht.2 hle
  obtain ⟨hsize, heq⟩ := utf8ByteSize_of_prefix hpre
  refine ⟨hsize, ?_⟩
  intro hback
  cases s
  cases t
  have hfolder := heq hback
  have hbucket := hs.1.trans ht.1.symm
  simp_all

end Scope

/-! ## Selection -/

/-- Going through some entries with a best one so far ends with one of all these that is longest. -/
theorem foldl_preferLonger (b : Scope × Key.Handle) (entries : List (Scope × Key.Handle)) :
    ∃ best, entries.foldl preferLonger (some b) = some best ∧ (best = b ∨ best ∈ entries) ∧
      b.1.folder.utf8ByteSize ≤ best.1.folder.utf8ByteSize ∧
      ∀ entry ∈ entries, entry.1.folder.utf8ByteSize ≤ best.1.folder.utf8ByteSize := by
  induction entries generalizing b with
  | nil => exact ⟨b, rfl, .inl rfl, Nat.le_refl _, by simp⟩
  | cons entry entries ih =>
    rw [List.foldl_cons, preferLonger]
    by_cases h : b.1.folder.utf8ByteSize ≤ entry.1.folder.utf8ByteSize
    · rw [if_pos h]
      obtain ⟨best, hfold, hmem, hentry, hothers⟩ := ih entry
      refine ⟨best, hfold, .inr ?_, Nat.le_trans h hentry, ?_⟩
      · rcases hmem with rfl | hmem
        · exact List.mem_cons_self
        · exact List.mem_cons_of_mem entry hmem
      · exact List.forall_mem_cons.mpr ⟨hentry, hothers⟩
    · rw [if_neg h]
      obtain ⟨best, hfold, hmem, hb, hothers⟩ := ih b
      have hentry : entry.1.folder.utf8ByteSize ≤ best.1.folder.utf8ByteSize := by omega
      exact ⟨best, hfold, hmem.imp_right (List.mem_cons_of_mem entry), hb,
        List.forall_mem_cons.mpr ⟨hentry, hothers⟩⟩

variable (entries : List (Scope × Key.Handle)) (l : Location)

theorem mem_filter_contains_iff (entry : Scope × Key.Handle) :
    entry ∈ entries.filter (·.1.contains l) ↔ entry ∈ entries ∧ entry.1.Covers l := by
  rw [List.mem_filter, Scope.contains_iff]

/-- Nothing is selected exactly if no entry covers the location. -/
theorem select_eq_none_iff : select entries l = none ↔ ∀ entry ∈ entries, ¬entry.1.Covers l := by
  rw [select]
  cases hfilter : entries.filter (·.1.contains l) with
  | nil =>
    rw [List.foldl_nil, eq_self_iff_true, true_iff]
    intro entry hentry hcovers
    have hmem := (mem_filter_contains_iff entries l entry).mpr ⟨hentry, hcovers⟩
    rw [hfilter] at hmem
    exact List.not_mem_nil hmem
  | cons entry others =>
    obtain ⟨best, hfold, -⟩ := foldl_preferLonger entry others
    rw [List.foldl_cons, preferLonger, hfold]
    have hmem : entry ∈ entries.filter (·.1.contains l) := by
      rw [hfilter]
      exact List.mem_cons_self
    obtain ⟨hentry, hcovers⟩ := (mem_filter_contains_iff entries l entry).mp hmem
    constructor
    · intro h
      contradiction
    · intro h
      exact absurd hcovers (h entry hentry)

/-- What is selected covers the location, and no other entry that does is longer. -/
theorem longest_of_select {best : Scope × Key.Handle} (h : select entries l = some best) :
    best ∈ entries ∧ best.1.Covers l ∧ ∀ entry ∈ entries, entry.1.Covers l →
      entry.1.folder.utf8ByteSize ≤ best.1.folder.utf8ByteSize := by
  rw [select] at h
  cases hfilter : entries.filter (·.1.contains l) with
  | nil =>
    rw [hfilter] at h
    contradiction
  | cons entry others =>
    obtain ⟨found, hfold, hmem, hentry, hothers⟩ := foldl_preferLonger entry others
    rw [hfilter, List.foldl_cons, preferLonger, hfold] at h
    obtain rfl := Option.some.inj h
    have hlongest : ∀ other ∈ entry :: others,
        other.1.folder.utf8ByteSize ≤ found.1.folder.utf8ByteSize :=
      List.forall_mem_cons.mpr ⟨hentry, hothers⟩
    rw [← List.mem_cons, ← hfilter] at hmem
    rw [← hfilter] at hlongest
    obtain ⟨hfound, hcovers⟩ := (mem_filter_contains_iff entries l found).mp hmem
    refine ⟨hfound, hcovers, ?_⟩
    intro other hother hcovers
    exact hlongest other ((mem_filter_contains_iff entries l other).mpr ⟨hother, hcovers⟩)

/-- An entry that covers a location with strictly more segments than any other entry. -/
def Longest (IsEntry : Scope × Key.Handle → Prop) (l : Location) (best : Scope × Key.Handle) :
    Prop :=
  IsEntry best ∧ best.1.Covers l ∧ ∀ other, IsEntry other → other ≠ best → other.1.Covers l →
    other.1.segments.length < best.1.segments.length

/-- There is no more than one such entry. -/
theorem Longest.unique {IsEntry : Scope × Key.Handle → Prop} {l : Location}
    {best best' : Scope × Key.Handle} (h : Longest IsEntry l best) (h' : Longest IsEntry l best') :
    best = best' := by
  by_contra hne
  obtain ⟨hmem, hcovers, hothers⟩ := h
  obtain ⟨hmem', hcovers', hothers'⟩ := h'
  have hlt := hothers best' hmem' (Ne.symm hne) hcovers'
  have hgt := hothers' best hmem hne hcovers
  omega

/-- If no scope occurs twice, the selected entry is the one that covers the location with the most
segments. -/
theorem select_eq_some_iff (hnodup : (entries.map (·.1)).Nodup) (best : Scope × Key.Handle) :
    select entries l = some best ↔ Longest (· ∈ entries) l best := by
  have hlongest {found : Scope × Key.Handle} (h : select entries l = some found) :
      Longest (· ∈ entries) l found := by
    obtain ⟨hmem, hcovers, hsizes⟩ := longest_of_select entries l h
    refine ⟨hmem, hcovers, ?_⟩
    intro other hother hne hothers
    by_contra hlt
    -- As many segments would make it as long, so its scope would occur twice.
    obtain ⟨-, heq⟩ := hcovers.utf8ByteSize hothers (Nat.le_of_not_lt hlt)
    have hscope := heq (hsizes other hother hothers)
    exact hne (List.inj_on_of_nodup_map hnodup hother hmem hscope.symm)
  constructor
  · exact hlongest
  · intro h
    cases hselect : select entries l with
    | none => exact absurd h.2.1 ((select_eq_none_iff entries l).mp hselect best h.1)
    | some found => rw [(hlongest hselect).unique h]

/-- If no scope occurs twice, the order of the entries does not matter. -/
theorem select_perm {entries entries' : List (Scope × Key.Handle)} (h : entries.Perm entries')
    (hnodup : (entries.map (·.1)).Nodup) : select entries l = select entries' l := by
  have hnodup' := (h.map (·.1)).nodup_iff.mp hnodup
  apply Option.ext
  intro best
  rw [select_eq_some_iff entries l hnodup, select_eq_some_iff entries' l hnodup']
  simp only [Longest, h.mem_iff]

/-! ## Paths -/

namespace Location

/-- The path without its scheme. -/
def body (path : String) : List Char :=
  ((Text.splitOnce [':', '/', '/'] path.toList).map (·.2)).getD path.toList

/-- Nothing stands before the first slash of the path. -/
def Bucketless (path : String) : Prop :=
  ∀ c ∈ (body path).head?, c = '/'

end Location

theorem splitSlash_append {before : List Char} (h : '/' ∉ before) (after : List Char) :
    splitSlash (before ++ '/' :: after) = (before, after) := by
  have hsplit := Text.splitOnce_append List.not_mem_nil (Text.not_infix_of_not_mem h) after
  rw [List.append_assoc, List.singleton_append] at hsplit
  rw [splitSlash, hsplit]
  rfl

theorem splitSlash_of_not_mem {cs : List Char} (h : '/' ∉ cs) : splitSlash cs = (cs, []) := by
  rw [splitSlash, (Text.splitOnce_eq_none_iff ['/'] cs).mpr (Text.not_infix_of_not_mem h)]
  rfl

/-- The part before the first slash is empty if there is nothing, or the slash comes first. -/
theorem splitSlash_fst_eq_nil_iff (cs : List Char) :
    (splitSlash cs).1 = [] ↔ ∀ c ∈ cs.head?, c = '/' := by
  cases cs with
  | nil => simp [splitSlash, Text.splitOnce, Text.dropPrefix?]
  | cons c cs =>
    rw [splitSlash, Text.splitOnce, Text.dropPrefix?]
    by_cases h : c = '/'
    · simp [h, Text.dropPrefix?]
    · rw [if_neg (Ne.symm h)]
      cases Text.splitOnce ['/'] cs with
      | none => simp [h]
      | some parts => simp [h]

/-- A path without its scheme is cut at the first slash. -/
theorem Location.parse_eq (path : String) :
    Location.parse path =
      if (splitSlash (body path)).1 = [] then .error (.invalidObjectPath path)
      else .ok ⟨String.ofList (splitSlash (body path)).1,
        String.ofList (splitSlash (body path)).2⟩ := by
  unfold Location.parse body
  cases Text.splitOnce [':', '/', '/'] path.toList with
  | none => rfl
  | some parts => rfl

/-- A path describes a location unless it has no bucket. -/
theorem Location.parse_cases (path : String) :
    (Bucketless path ∧ Location.parse path = .error (.invalidObjectPath path)) ∨
      (¬Bucketless path ∧ ∃ l, Location.parse path = .ok l) := by
  rw [Bucketless, ← splitSlash_fst_eq_nil_iff, parse_eq]
  by_cases h : (splitSlash (body path)).1 = []
  · rw [if_pos h]
    exact .inl ⟨h, rfl⟩
  · rw [if_neg h]
    exact .inr ⟨h, _, rfl⟩

/-- The paths without a bucket are those that describe no location. -/
theorem Location.bucketless_iff (path : String) :
    Bucketless path ↔ ∀ l, Location.parse path ≠ .ok l := by
  rcases parse_cases path with ⟨hless, hparse⟩ | ⟨hless, l, hparse⟩
  · simp [hless, hparse]
  · simp [hless, hparse]

/-- A global key is the key of every path. -/
theorem resolve_of_globalKey {map : KeyMap} {key : Key.Handle} (h : map.globalKey = some key)
    (path : String) : map.resolve path = .ok key := by
  rw [resolve, h]

section

variable {map : KeyMap} {path : String} (hglobal : map.globalKey = none)

include hglobal

/-- Without a global key, a path with no location has no key. -/
theorem resolve_of_parse_error {e : Error} (hparse : Location.parse path = .error e) :
    map.resolve path = .error e := by
  rw [resolve, hglobal, hparse]
  rfl

/-- Without a global key, the key is that of the selected entry. -/
theorem resolve_of_parse_ok {l : Location} (hparse : Location.parse path = .ok l) :
    map.resolve path =
      match select map.entries l with
      | some entry => .ok entry.2
      | none => .error (.unmapped l.bucket) := by
  rw [resolve, hglobal, hparse]
  rfl

/-- Without a global key, paths without a bucket are refused as such, and no others. -/
theorem resolve_eq_invalid_iff :
    map.resolve path = .error (.invalidObjectPath path) ↔ Location.Bucketless path := by
  rcases Location.parse_cases path with ⟨hless, hparse⟩ | ⟨hless, l, hparse⟩
  · rw [resolve_of_parse_error hglobal hparse]
    simp [hless]
  · rw [resolve_of_parse_ok hglobal hparse]
    cases select map.entries l with
    | none => simp [hless]
    | some entry => simp [hless]

/-- Without a global key, a location that no entry covers has no key, and no other one. -/
theorem resolve_eq_unmapped_iff {l : Location} (hparse : Location.parse path = .ok l) :
    map.resolve path = .error (.unmapped l.bucket) ↔ ∀ entry ∈ map.entries, ¬entry.1.Covers l := by
  rw [resolve_of_parse_ok hglobal hparse, ← select_eq_none_iff]
  cases select map.entries l with
  | none => simp
  | some entry => simp

/-- Without a global key, and if no scope occurs twice, the key of a location is that of the entry
that covers it with the most segments. -/
theorem resolve_eq_ok_iff {l : Location} (hparse : Location.parse path = .ok l)
    (hnodup : (map.entries.map (·.1)).Nodup) (key : Key.Handle) :
    map.resolve path = .ok key ↔ ∃ scope, Longest (· ∈ map.entries) l (scope, key) := by
  simp only [resolve_of_parse_ok hglobal hparse, ← select_eq_some_iff map.entries l hnodup]
  cases select map.entries l with
  | none => simp
  | some entry => simp [Prod.ext_iff]

end

/-- A path has a key if there is a global one, or if some entry covers its location. -/
theorem exists_resolve {map : KeyMap} {path : String}
    (h : map.globalKey = none → ∃ l, Location.parse path = .ok l ∧
      ∃ entry ∈ map.entries, entry.1.Covers l) : ∃ key, map.resolve path = .ok key := by
  cases hglobal : map.globalKey with
  | some key => exact ⟨key, resolve_of_globalKey hglobal path⟩
  | none =>
    obtain ⟨l, hparse, entry, hmem, hcovers⟩ := h hglobal
    rw [resolve_of_parse_ok hglobal hparse]
    cases hselect : select map.entries l with
    | none => exact absurd hcovers ((select_eq_none_iff map.entries l).mp hselect entry hmem)
    | some best => exact ⟨best.2, rfl⟩

end PathSeal.KeyMap
