import PathSeal.Proofs.KeyMap.Reading

/-!
# PathSeal.Proofs.KeyMap.Location

What a missing scheme changes. With a scheme a path goes to the bucket that follows it,
whatever the object is called. Without one the first `://` is looked for all the same,
so an object whose name has it goes to what follows there: `data/x://other/y` is the
object `y` of the bucket `other` (`parse_schemeless`).
-/

namespace PathSeal.KeyMap

theorem length_splitSlash_snd_le (cs : List Char) : (splitSlash cs).2.length ≤ cs.length := by
  rw [splitSlash]
  cases hparts : Text.splitOnce ['/'] cs with
  | none => simp
  | some parts =>
    have hcs : cs = parts.1 ++ ['/'] ++ parts.2 := Text.eq_of_splitOnce hparts
    have hlength := congrArg List.length hcs
    rw [List.length_append] at hlength
    rw [Option.getD_some]
    omega

namespace Location

/-- What stands between a scheme and the bucket. -/
def schemeEnd : List Char := [':', '/', '/']

/-- What counts of a path is what follows the first `://`, if there is one. -/
theorem body_eq (path : String) :
    body path = ((Text.splitOnce schemeEnd path.toList).map (·.2)).getD path.toList := rfl

/-- The object of a path stands in what counts of it. -/
theorem length_object_le {path : String} {l : Location} (h : parse path = .ok l) :
    l.object.length ≤ (body path).length := by
  rw [parse_eq] at h
  split at h
  · contradiction
  · rw [← Except.ok.inj h, String.length_ofList]
    exact length_splitSlash_snd_le (body path)

/-- Which location a path describes depends on what counts of it. -/
theorem parse_eq_ok_iff_of_body {path path' : String} (h : body path = body path')
    (l : Location) : parse path = .ok l ↔ parse path' = .ok l := by
  rw [parse_eq, parse_eq, h]
  split
  · simp
  · rfl

section

variable {scheme bucket : String} (object : String)

/-- With a scheme all that follows it counts. -/
theorem body_schemed {path : String} {rest : List Char} (hscheme : ':' ∉ scheme.toList)
    (hpath : path.toList = scheme.toList ++ schemeEnd ++ rest) : body path = rest := by
  have hsplit : Text.splitOnce schemeEnd path.toList = some (scheme.toList, rest) := by
    rw [hpath]
    exact Text.splitOnce_append (by decide) (Text.not_infix_of_not_mem hscheme) rest
  rw [body_eq, hsplit]
  rfl

/-- Without a scheme what counts is what follows the first `://` of the object, or else all. -/
theorem body_schemeless (hbucket : ':' ∉ bucket.toList) :
    body s!"{bucket}/{object}" =
      ((Text.splitOnce schemeEnd object.toList).map (·.2)).getD s!"{bucket}/{object}".toList := by
  have hpath : s!"{bucket}/{object}".toList = (bucket.toList ++ ['/']) ++ object.toList := by
    simp [toString]
  have hnot : ':' ∉ bucket.toList ++ ['/'] := by simp [hbucket]
  have hsplit : Text.splitOnce schemeEnd s!"{bucket}/{object}".toList =
      (Text.splitOnce schemeEnd object.toList).map fun parts =>
        (bucket.toList ++ ['/'] ++ parts.1, parts.2) := by
    rw [hpath]
    exact Text.splitOnce_append_of_not_mem hnot object.toList
  rw [body_eq, hsplit, Option.map_map]
  rfl

/-- If what counts begins with a bucket, the path goes there. -/
theorem parse_of_body {path : String} (hbody : body path = s!"{bucket}/{object}".toList)
    (hne : bucket ≠ "") (hslash : '/' ∉ bucket.toList) : parse path = .ok ⟨bucket, object⟩ := by
  have hpath : s!"{bucket}/{object}".toList = bucket.toList ++ '/' :: object.toList := by
    simp [toString]
  have hbucket : bucket.toList ≠ [] := by simpa using hne
  rw [parse_eq, hbody, hpath, splitSlash_append hslash, if_neg hbucket, String.ofList_toList,
    String.ofList_toList]

end

/-- With a scheme a path goes to its bucket. Without one it goes there if the object has no `://` in
its name, and then each table has the same key for both. Otherwise it does not: then it goes where
what follows the first `://` goes. -/
theorem parse_schemeless {scheme bucket : String} (object : String) (hne : bucket ≠ "")
    (hslash : '/' ∉ bucket.toList) (hcolon : ':' ∉ bucket.toList) (hscheme : ':' ∉ scheme.toList) :
    parse s!"{scheme}://{bucket}/{object}" = .ok ⟨bucket, object⟩ ∧
    (parse s!"{bucket}/{object}" = .ok ⟨bucket, object⟩ ↔ ¬schemeEnd <:+: object.toList) ∧
    (¬schemeEnd <:+: object.toList → ∀ map : KeyMap,
      map.resolve s!"{bucket}/{object}" = map.resolve s!"{scheme}://{bucket}/{object}") ∧
    ∀ before after : String, object = s!"{before}://{after}" → ¬schemeEnd <:+: before.toList →
      ∀ l, parse s!"{bucket}/{object}" = .ok l ↔ parse s!"{scheme}://{after}" = .ok l := by
  have hschemed : parse s!"{scheme}://{bucket}/{object}" = .ok ⟨bucket, object⟩ := by
    apply parse_of_body object _ hne hslash
    exact body_schemed hscheme (by simp [toString, schemeEnd])
  have hbody := body_schemeless object hcolon
  have hsame (h : ¬schemeEnd <:+: object.toList) :
      parse s!"{bucket}/{object}" = .ok ⟨bucket, object⟩ := by
    apply parse_of_body object _ hne hslash
    rw [hbody, (Text.splitOnce_eq_none_iff schemeEnd object.toList).mpr h]
    rfl
  refine ⟨hschemed, ⟨?_, hsame⟩, ?_, ?_⟩
  · intro hparse hwithin
    -- What follows the `://` is too short to have the object in it.
    cases hparts : Text.splitOnce schemeEnd object.toList with
    | none => exact (Text.splitOnce_eq_none_iff schemeEnd object.toList).mp hparts hwithin
    | some parts =>
      have hobject : object.toList = parts.1 ++ schemeEnd ++ parts.2 :=
        Text.eq_of_splitOnce hparts
      have hlength := congrArg List.length hobject
      have hle : object.length ≤ parts.2.length := by
        have hle := length_object_le hparse
        rwa [hbody, hparts] at hle
      rw [String.length_toList, List.length_append, List.length_append] at hlength
      have hpos : 0 < schemeEnd.length := by decide
      omega
  · intro h map
    rw [resolve, resolve, hsame h, hschemed]
  · intro before after hobject hbefore
    have hsplit : Text.splitOnce schemeEnd object.toList =
        some (before.toList, after.toList) := by
      have happend : object.toList = before.toList ++ schemeEnd ++ after.toList := by
        simp [hobject, toString, schemeEnd]
      rw [happend]
      exact Text.splitOnce_append (by decide) hbefore after.toList
    have hafter : body s!"{scheme}://{after}" = after.toList :=
      body_schemed hscheme (by simp [toString, schemeEnd])
    apply parse_eq_ok_iff_of_body
    rw [hbody, hsplit, hafter]
    rfl

/-- A plain name is found with and without a scheme, and `x://y/z` is not. -/
theorem parse_schemeless_of_uri_name :
    parse "bucket/dir/z" = .ok ⟨"bucket", "dir/z"⟩ ∧
      parse "bucket/x://y/z" ≠ .ok ⟨"bucket", "x://y/z"⟩ ∧
      (∀ l, parse "bucket/x://y/z" = .ok l ↔ parse "gs://y/z" = .ok l) := by
  have hne : "bucket" ≠ "" := by decide
  have hslash : '/' ∉ "bucket".toList := by decide
  have hcolon : ':' ∉ "bucket".toList := by decide
  have hscheme : ':' ∉ "gs".toList := by decide
  obtain ⟨-, hplain, -⟩ := parse_schemeless "dir/z" hne hslash hcolon hscheme
  obtain ⟨-, hnamed, -, hrest⟩ := parse_schemeless "x://y/z" hne hslash hcolon hscheme
  have hbefore : ¬schemeEnd <:+: "x".toList := by decide +kernel
  refine ⟨hplain.mpr (by decide +kernel), fun h => hnamed.mp h (by decide +kernel), ?_⟩
  exact hrest "x" "y/z" rfl hbefore

/-- The key of another bucket is used, if an object has its path in the name. -/
theorem resolve_schemeless_of_other_bucket :
    ∃ map, KeyMap.parse "bucket:k1,y:k2" = .ok map ∧
      parse "gs://bucket/x://y/z" = .ok ⟨"bucket", "x://y/z"⟩ ∧
      parse "bucket/x://y/z" = .ok ⟨"y", "z"⟩ ∧
      map.resolve "gs://bucket/x://y/z" = .ok ⟨.gcp, "k1"⟩ ∧
      map.resolve "bucket/x://y/z" = .ok ⟨.gcp, "k2"⟩ :=
  ⟨⟨none, [(⟨"bucket", ""⟩, ⟨.gcp, "k1"⟩), (⟨"y", ""⟩, ⟨.gcp, "k2"⟩)]⟩, rfl, rfl, rfl, rfl, rfl⟩

end Location

end PathSeal.KeyMap
