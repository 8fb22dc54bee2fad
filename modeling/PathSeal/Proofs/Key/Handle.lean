import PathSeal.Key.Handle
import PathSeal.Proofs.Text.Blank
import PathSeal.Proofs.Text.Split

/-!
# PathSeal.Proofs.Key.Handle

Which text names which key. Besides the URI of a key with any resource, only the bare
resource of a Cloud KMS key does, if there is no scheme that could be read in it
(`ofTrimmed_eq_ok_iff`).

Keys with the same URI are the same (`uri_inj`). A handle that comes from a text has a
resource, and its URI no white space around it (`Named.bareEnds_uri`).
-/

namespace PathSeal.Key

/-- Only its own name is read as a scheme. -/
theorem Scheme.ofName?_eq_some_iff (name : String) (scheme : Scheme) :
    Scheme.ofName? name = some scheme ↔ scheme.name = name := by
  constructor
  · intro h
    simpa [Scheme.ofName?] using List.find?_some h
  · rintro rfl
    cases scheme <;> rfl

theorem Scheme.not_infix_name (scheme : Scheme) : ¬Handle.separator <:+: scheme.name.toList := by
  cases scheme <;> decide +kernel

namespace Handle

theorem toList_uri (h : Handle) :
    h.uri.toList = h.scheme.name.toList ++ separator ++ h.resource.toList := by
  simp [uri, toString, separator]

/-- A URI is cut into scheme and resource at its first separator, whatever the resource. -/
theorem splitOnce_uri (h : Handle) :
    Text.splitOnce separator h.uri.toList = some (h.scheme.name.toList, h.resource.toList) := by
  rw [toList_uri]
  exact Text.splitOnce_append (by decide) h.scheme.not_infix_name _

/-- Different keys have different URIs. -/
theorem uri_inj {h h' : Handle} : h.uri = h'.uri ↔ h = h' := by
  refine ⟨fun heq => ?_, congrArg uri⟩
  have hparts := h.splitOnce_uri
  rw [heq, splitOnce_uri, Option.some.injEq, Prod.mk.injEq, String.toList_inj, String.toList_inj]
    at hparts
  obtain ⟨hname, hresource⟩ := hparts
  have hscheme : h'.scheme = h.scheme := by
    have hfound := (Scheme.ofName?_eq_some_iff h.scheme.name h'.scheme).mpr hname
    have hself := (Scheme.ofName?_eq_some_iff h.scheme.name h.scheme).mpr rfl
    exact Option.some.inj (hfound.symm.trans hself)
  cases h
  cases h'
  simp_all

/-- The URI of a key with a resource names it. -/
theorem ofTrimmed_uri {h : Handle} (hne : h.resource ≠ "") : ofTrimmed h.uri.toList = .ok h := by
  have huri : h.uri.toList ≠ [] := by simp [toList_uri, separator]
  have hscheme := (Scheme.ofName?_eq_some_iff h.scheme.name h.scheme).mpr rfl
  have hresource : h.resource.toList ≠ [] := by simpa using hne
  rw [ofTrimmed, if_neg huri, splitOnce_uri]
  simp [hscheme, hresource]

/-- A text in which no scheme can be read names a Cloud KMS key. -/
theorem ofTrimmed_bare {cs : List Char} (hne : cs ≠ []) (h : ¬separator <:+: cs) :
    ofTrimmed cs = .ok ⟨.gcp, String.ofList cs⟩ := by
  rw [ofTrimmed, if_neg hne, (Text.splitOnce_eq_none_iff separator cs).mpr h]

/-- A text without white space around it names a key with a resource: it is the URI of the key, or
there is no scheme in it and it is the resource of a Cloud KMS key. -/
theorem ofTrimmed_eq_ok_iff (cs : List Char) (h : Handle) :
    ofTrimmed cs = .ok h ↔
      h.resource ≠ "" ∧ (h.uri.toList = cs ∨
        h.scheme = .gcp ∧ h.resource.toList = cs ∧ ¬separator <:+: cs) := by
  constructor
  · intro hok
    rw [ofTrimmed] at hok
    split at hok
    · contradiction
    next hne =>
    split at hok
    · next hnone =>
      have hwithin := (Text.splitOnce_eq_none_iff separator cs).mp hnone
      obtain rfl := Except.ok.inj hok
      refine ⟨?_, .inr ⟨rfl, String.toList_ofList, hwithin⟩⟩
      simpa using hne
    · next before resource hparts =>
      split at hok
      · contradiction
      next scheme hscheme =>
      split at hok
      · contradiction
      next hresource =>
      obtain rfl := Except.ok.inj hok
      have hname := (Scheme.ofName?_eq_some_iff _ _).mp hscheme
      refine ⟨by simpa using hresource, .inl ?_⟩
      rw [toList_uri, Text.eq_of_splitOnce hparts, hname]
      simp
  · rintro ⟨hne, rfl | ⟨hscheme, rfl, hwithin⟩⟩
    · exact ofTrimmed_uri hne
    · have hresource : h.resource.toList ≠ [] := by simpa using hne
      rw [ofTrimmed_bare hresource hwithin, String.ofList_toList, ← hscheme]

/-- A key whose scheme has to be named is written as its URI. -/
theorem uri_of_ofTrimmed {cs : List Char} {key : Handle} (h : ofTrimmed cs = .ok key)
    (hscheme : key.scheme ≠ .gcp) : key.uri.toList = cs := by
  rcases ((ofTrimmed_eq_ok_iff cs key).mp h).2 with huri | ⟨hgcp, -⟩
  · exact huri
  · exact absurd hgcp hscheme

/-- Some text names the key. -/
def Named (h : Handle) : Prop :=
  ∃ s, parse s = .ok h

namespace Named

variable {h : Handle} (hnamed : Named h)

include hnamed

theorem resource_ne : h.resource ≠ "" := by
  obtain ⟨s, hs⟩ := hnamed
  exact ((ofTrimmed_eq_ok_iff _ h).mp hs).1

/-- There is no white space after the resource. -/
theorem getLast_resource : ∀ c ∈ h.resource.toList.getLast?, Text.isBlank c = false := by
  obtain ⟨s, hs⟩ := hnamed
  have hbare := Text.bareEnds_stripEnds Text.isBlank s.toList
  rcases ((ofTrimmed_eq_ok_iff _ h).mp hs).2 with huri | ⟨-, hresource, -⟩
  · rw [toList_uri] at huri
    rw [← Text.trimChars, ← huri] at hbare
    exact hbare.getLast
  · rw [hresource]
    exact hbare.2

/-- There is no white space around the URI. -/
theorem bareEnds_uri : Text.BareEnds Text.isBlank h.uri.toList := by
  have hname : h.scheme.name.toList ≠ [] ∧ Text.BareEnds Text.isBlank h.scheme.name.toList := by
    cases h.scheme <;> decide +kernel
  have hresource : h.resource.toList ≠ [] := by simpa using hnamed.resource_ne
  rw [toList_uri]
  exact Text.bareEnds_append hname.1 hname.2.1 separator hresource hnamed.getLast_resource

end Named

end Handle
end PathSeal.Key
