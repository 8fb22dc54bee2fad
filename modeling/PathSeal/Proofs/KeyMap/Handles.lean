import PathSeal.Proofs.KeyMap.Resolution

/-!
# PathSeal.Proofs.KeyMap.Handles

Which keys a table can give. `handles` lists the keys that the table names, the global
one first, each once and in the order in which they first occur (`handles_first`).
Whatever key a path has is one of them (`mem_handles_of_resolve`).

The list is built from left to right. So the induction keeps, of the part that was
gone through, the list of its first occurrences (`FirstOccurrences.foldl_addNew`).
-/

namespace PathSeal.KeyMap

/-- The keys that a table names: the global one, then those of the entries. -/
def keys (map : KeyMap) : List Key.Handle :=
  map.globalKey.toList ++ map.entries.map (·.2)

/-- A list has the keys of another one, in the order in which they first occur there. -/
structure FirstOccurrences (keys firsts : List Key.Handle) : Prop where
  mem_iff : ∀ key, key ∈ firsts ↔ key ∈ keys
  pairwise : firsts.Pairwise fun a b => keys.idxOf a < keys.idxOf b

namespace FirstOccurrences

variable {done keys firsts : List Key.Handle}

theorem nodup (h : FirstOccurrences keys firsts) : firsts.Nodup := by
  refine h.pairwise.imp ?_
  rintro a b hlt rfl
  exact Nat.lt_irrefl _ hlt

/-- More keys at the end leave the order of those before them as it is. -/
theorem pairwise_append (h : FirstOccurrences done firsts) (keys : List Key.Handle) :
    firsts.Pairwise fun a b => (done ++ keys).idxOf a < (done ++ keys).idxOf b := by
  refine h.pairwise.imp_of_mem ?_
  intro a b ha hb hlt
  rw [List.idxOf_append_of_mem ((h.mem_iff a).mp ha),
    List.idxOf_append_of_mem ((h.mem_iff b).mp hb)]
  exact hlt

/-- A key that is looked at next is appended if it is new. -/
theorem addNew (h : FirstOccurrences done firsts) (key : Key.Handle) :
    FirstOccurrences (done ++ [key]) (KeyMap.addNew firsts key) := by
  rw [KeyMap.addNew]
  split
  · next hseen =>
    refine ⟨?_, h.pairwise_append [key]⟩
    intro other
    have hdone := (h.mem_iff key).mp hseen
    rw [h.mem_iff, List.mem_append, List.mem_singleton]
    constructor
    · exact .inl
    · rintro (hother | rfl)
      · exact hother
      · exact hdone
  · next hnew =>
    have hnot : key ∉ done := mt (h.mem_iff key).mpr hnew
    constructor
    · intro other
      rw [List.mem_append, List.mem_append, h.mem_iff]
    · rw [List.pairwise_append]
      refine ⟨h.pairwise_append [key], List.pairwise_singleton .., ?_⟩
      intro a ha b hb
      obtain rfl := List.mem_singleton.mp hb
      have hdone := (h.mem_iff a).mp ha
      rw [List.idxOf_append_of_mem hdone, List.idxOf_append_of_notMem hnot]
      exact Nat.lt_of_lt_of_le (List.idxOf_lt_length_of_mem hdone) (Nat.le_add_right ..)

/-- Going on through a list gives the first occurrences of it all. -/
theorem foldl_addNew (h : FirstOccurrences done firsts) (keys : List Key.Handle) :
    FirstOccurrences (done ++ keys) (keys.foldl KeyMap.addNew firsts) := by
  induction keys generalizing done firsts with
  | nil =>
    rw [List.append_nil]
    exact h
  | cons key keys ih =>
    rw [List.append_cons]
    exact ih (h.addNew key)

end FirstOccurrences

variable (map : KeyMap)

/-- The listed keys are those that the table names, in the order in which they first occur. -/
theorem handles_first : FirstOccurrences map.keys map.handles :=
  FirstOccurrences.foldl_addNew ⟨fun _ => Iff.rfl, .nil⟩ map.keys

/-- A key is listed exactly if it is the global one or that of an entry. -/
theorem mem_handles_iff (key : Key.Handle) :
    key ∈ map.handles ↔ map.globalKey = some key ∨ ∃ scope, (scope, key) ∈ map.entries := by
  rw [map.handles_first.mem_iff, keys, List.mem_append, Option.mem_toList]
  simp

/-- The key of a path is a listed one. -/
theorem mem_handles_of_resolve {path : String} {key : Key.Handle}
    (h : map.resolve path = .ok key) : key ∈ map.handles := by
  rw [mem_handles_iff]
  cases hglobal : map.globalKey with
  | some always =>
    rw [resolve_of_globalKey hglobal] at h
    exact .inl (congrArg some (Except.ok.inj h))
  | none =>
    cases hparse : Location.parse path with
    | error e =>
      rw [resolve_of_parse_error hglobal hparse] at h
      contradiction
    | ok l =>
      rw [resolve_of_parse_ok hglobal hparse] at h
      cases hselect : select map.entries l with
      | none =>
        rw [hselect] at h
        contradiction
      | some entry =>
        rw [hselect] at h
        obtain ⟨hmem, -⟩ := longest_of_select map.entries l hselect
        rw [← Except.ok.inj h]
        exact .inr ⟨entry.1, hmem⟩

end PathSeal.KeyMap
