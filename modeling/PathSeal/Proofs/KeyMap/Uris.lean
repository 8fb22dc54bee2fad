import Mathlib.Data.String.Basic
import PathSeal.Bytes
import PathSeal.Proofs.Key.Handle
import PathSeal.Proofs.KeyMap.Handles
import PathSeal.Proofs.KeyMap.Reading

/-!
# PathSeal.Proofs.KeyMap.Uris

Where the URIs of keys come from. A mapping text writes out the URI of each key whose
scheme has to be named (`uri_infix_of_mem_handles`), so no such URI is longer than the
text (`length_uri_le_of_mem_handles`).
-/

namespace PathSeal

open Bytes

namespace KeyMap

/-- The key of an entry stands in it. -/
theorem infix_of_splitEntry {entry scope key : List Char}
    (h : splitEntry entry = .ok (scope, key)) : key <:+: entry := by
  rw [splitEntry] at h
  split at h
  · next before after hparts =>
    dsimp only at h
    split at h
    · contradiction
    · obtain ⟨-, rfl⟩ := Prod.mk.inj (Except.ok.inj h)
      rw [Text.eq_of_splitOnce hparts]
      exact (Text.stripEnds_infix Text.isBlank after).trans (List.suffix_append ..).isInfix
  · contradiction

/-- An entry writes out the URI of its key, if the scheme has to be named. -/
theorem uri_infix_of_readEntry {entry : List Char} {item : Item}
    (h : readEntry entry = .ok item) (hscheme : item.2.scheme ≠ .gcp) :
    item.2.uri.toList <:+: entry := by
  obtain ⟨target, text, hsplit, hkey, -⟩ := (readEntry_eq_ok_iff entry item).mp h
  rw [Key.Handle.uri_of_ofTrimmed hkey hscheme]
  exact infix_of_splitEntry hsplit

/-- A mapping text writes out the URI of each of its keys whose scheme has to be named. -/
theorem uri_infix_of_mem_handles {s : String} {map : KeyMap} (h : parse s = .ok map)
    {key : Key.Handle} (hmem : key ∈ map.handles) (hscheme : key.scheme ≠ .gcp) :
    key.uri.toList <:+: s.toList := by
  obtain ⟨items, hread, hnodup, -, rfl⟩ := (parse_eq_ok_iff s map).mp h
  obtain ⟨target, hitem⟩ : ∃ target, (target, key) ∈ items := by
    rcases ((ofItems items).mem_handles_iff key).mp hmem with hglobal | ⟨scope, hentry⟩
    · exact ⟨none, (globalKey_ofItems_eq_some_iff hnodup key).mp hglobal⟩
    · exact ⟨some scope, (mem_entries_ofItems items (scope, key)).mp hentry⟩
  obtain ⟨entry, hentry, hreads⟩ := (mem_iff_of_describe hread _).mpr hitem
  obtain ⟨piece, hpiece, rfl⟩ := List.mem_map.mp (List.mem_filter.mp hentry).1
  rw [Text.fields_eq_splitOnP] at hpiece
  have huri := uri_infix_of_readEntry hreads hscheme
  have hjoined : [','].intercalate (s.toList.splitOn ',') = s.toList := List.intercalate_splitOn ','
  have htext : piece <:+: s.toList := by
    rw [← hjoined]
    exact Text.infix_intercalate_of_mem [','] hpiece
  exact (huri.trans (Text.stripEnds_infix Text.isBlank piece)).trans htext

/-- So none of these URIs is longer than the text. -/
theorem length_uri_le_of_mem_handles {s : String} {map : KeyMap} (h : parse s = .ok map)
    {key : Key.Handle} (hmem : key ∈ map.handles) (hscheme : key.scheme ≠ .gcp) :
    (ofString key.uri).length ≤ (ofString s).length := by
  have hsize (t : String) : (ofString t).length = String.utf8Len t.toList := by
    rw [← String.utf8ByteSize_ofList, String.ofList_toList]
    simp [ofString]
  rw [hsize, hsize]
  exact String.utf8Len_le_of_infix (uri_infix_of_mem_handles h hmem hscheme)

end KeyMap
end PathSeal
