import Mathlib.Data.List.Infix
import PathSeal.Proofs.Key.Handle

/-!
# PathSeal.Proofs.Key.Canonical

Reading a handle is a canonicalisation. The URI of the key that a text names is the
canonical form of the text (`parse_eq_ok_iff`), and it names the same key again
(`Named.parse_uri`). So two texts name the same key exactly if they have the same
canonical form. A text that names no key is refused for one reason (`Refused`).
-/

namespace PathSeal.Key.Handle

/-! ## Resources -/

/-- Where the resource begins in the UTF-8 form of a URI: after the scheme and the separator. -/
def resourceStart (h : Handle) : Nat :=
  h.scheme.name.utf8ByteSize + 3

/-- At that place a URI can be cut, and what follows it is the resource. -/
theorem exists_pos_resource (h : Handle) :
    ∃ p : h.uri.Pos, p.offset.byteIdx = h.resourceStart ∧
      (h.uri.sliceFrom p).copy = h.resource := by
  have huri : h.uri = (h.scheme.name ++ "://") ++ h.resource := rfl
  have hvalid : (h.scheme.name ++ "://").rawEndPos.IsValid h.uri :=
    String.Pos.Raw.isValid_iff_exists_append.mpr ⟨_, h.resource, huri, rfl⟩
  have hstart : (h.scheme.name ++ "://").utf8ByteSize = h.resourceStart :=
    String.utf8ByteSize_append
  exact ⟨⟨_, hvalid⟩, hstart, String.Pos.Splits.copy_sliceFrom_eq ⟨huri, rfl⟩⟩

/-! ## Canonical forms -/

/-- A text with its scheme: one in which no scheme can be read gets that of Cloud KMS. -/
def canonical (cs : List Char) : List Char :=
  if separator <:+: cs then cs else Scheme.gcp.name.toList ++ separator ++ cs

/-- A text names a key exactly if its canonical form is the URI of that key, and the key has a
resource. -/
theorem parse_eq_ok_iff (s : String) (h : Handle) :
    parse s = .ok h ↔
      h.resource ≠ "" ∧ h.uri.toList = canonical (Text.trimChars s.toList) := by
  rw [parse, ofTrimmed_eq_ok_iff, canonical]
  generalize Text.trimChars s.toList = cs
  refine and_congr_right fun _ => ?_
  by_cases hwithin : separator <:+: cs
  · simp [hwithin]
  · have huri : h.uri.toList ≠ cs := by
      rintro rfl
      rw [toList_uri] at hwithin
      exact hwithin (List.infix_append _ _ _)
    have hcloud : (⟨.gcp, String.ofList cs⟩ : Handle).uri.toList =
        Scheme.gcp.name.toList ++ separator ++ cs := by
      rw [toList_uri, String.toList_ofList]
    rw [if_neg hwithin, or_iff_right huri, ← hcloud, String.toList_inj, uri_inj]
    constructor
    · rintro ⟨hscheme, hresource, -⟩
      rw [← hscheme, ← hresource, String.ofList_toList]
    · rintro rfl
      exact ⟨rfl, String.toList_ofList, hwithin⟩

theorem Named.parse_uri {h : Handle} (hnamed : Named h) : parse h.uri = .ok h := by
  rw [parse, hnamed.bareEnds_uri.trimChars, ofTrimmed_uri hnamed.resource_ne]

/-! ## Refusals -/

/-- Why a text without white space around it names no key: it is empty, or what stands before its
first separator is no scheme, or nothing stands after the separator. -/
inductive Refused : List Char → HandleError → Prop where
  | empty : Refused [] .empty
  | unknownScheme {before : List Char} (after : List Char) (hfirst : ¬separator <:+: before)
    (hunknown : ∀ scheme : Scheme, scheme.name.toList ≠ before) :
    Refused (before ++ separator ++ after) (.unknownScheme (String.ofList before))
  | missingResource (scheme : Scheme) :
    Refused (scheme.name.toList ++ separator)
      (.missingResource (String.ofList (scheme.name.toList ++ separator)))

variable {cs : List Char} {e : HandleError}

/-- The reason that is given for refusing a text holds of it. -/
theorem refused_of_ofTrimmed (herror : ofTrimmed cs = .error e) : Refused cs e := by
  rw [ofTrimmed] at herror
  split at herror
  · next hempty =>
    rw [hempty, ← Except.error.inj herror]
    exact .empty
  split at herror
  · contradiction
  next before resource hparts =>
  have hcs := Text.eq_of_splitOnce hparts
  have hfirst := Text.not_infix_of_splitOnce (by decide) hparts
  split at herror
  · next hnone =>
    rw [hcs, ← Except.error.inj herror]
    refine .unknownScheme resource hfirst ?_
    intro scheme hname
    have hknown := (Scheme.ofName?_eq_some_iff (String.ofList before) scheme).mpr
      (by rw [← hname, String.ofList_toList])
    rw [hnone] at hknown
    contradiction
  next scheme hscheme =>
  split at herror
  · next hresource =>
    have hname := (Scheme.ofName?_eq_some_iff _ _).mp hscheme
    have hbefore : before = scheme.name.toList := by rw [hname, String.toList_ofList]
    rw [hresource, List.append_nil, hbefore] at hcs
    rw [← Except.error.inj herror, hcs]
    exact .missingResource scheme
  · contradiction

/-- A text of which a reason holds is refused for it. -/
theorem ofTrimmed_of_refused (hrefused : Refused cs e) : ofTrimmed cs = .error e := by
  cases hrefused with
  | empty => rfl
  | @unknownScheme before after hfirst hunknown =>
    have hne : before ++ separator ++ after ≠ [] := by simp [separator]
    have hnone : Scheme.ofName? (String.ofList before) = none := by
      rw [Option.eq_none_iff_forall_ne_some]
      intro scheme hscheme
      have hname := (Scheme.ofName?_eq_some_iff _ _).mp hscheme
      exact hunknown scheme (by rw [hname, String.toList_ofList])
    rw [ofTrimmed, if_neg hne, separator, Text.splitOnce_append (by decide) hfirst]
    simp only [hnone]
  | missingResource scheme =>
    have hne : scheme.name.toList ++ separator ≠ [] := by simp [separator]
    have hsplit := splitOnce_uri ⟨scheme, ""⟩
    have huri : (⟨scheme, ""⟩ : Handle).uri.toList = scheme.name.toList ++ separator := by
      simp [toList_uri]
    rw [huri] at hsplit
    have hself := (Scheme.ofName?_eq_some_iff scheme.name scheme).mpr rfl
    rw [ofTrimmed, if_neg hne, hsplit]
    simp [hself]

/-- **Reading a handle is a canonicalisation.** White space around a text does not count. A text
names a key if and only if its canonical form is the URI of the key and the key has a resource. The
URI names the same key again; it has no white space around it, and can be cut, without cutting a
character, where its resource begins. Two texts name the same key exactly if they have the same
canonical form. All other texts are refused, each for one reason. -/
theorem parse_canonical (s : String) :
    (∀ h, parse s = .ok h ↔
      h.resource ≠ "" ∧ h.uri.toList = canonical (Text.trimChars s.toList)) ∧
    (∀ h, parse s = .ok h →
      parse h.uri = .ok h ∧
      h.uri = h.scheme.name ++ "://" ++ h.resource ∧
      (∃ p : h.uri.Pos, p.offset.byteIdx = h.resourceStart ∧
        (h.uri.sliceFrom p).copy = h.resource) ∧
      Text.BareEnds Text.isBlank h.uri.toList ∧
      ∀ s' h', parse s' = .ok h' → (h = h' ↔
        canonical (Text.trimChars s.toList) = canonical (Text.trimChars s'.toList))) ∧
    ∀ e, parse s = .error e ↔ Refused (Text.trimChars s.toList) e := by
  refine ⟨parse_eq_ok_iff s, ?_, fun e => ⟨refused_of_ofTrimmed, ofTrimmed_of_refused⟩⟩
  intro h hok
  have hnamed : Named h := ⟨s, hok⟩
  refine ⟨hnamed.parse_uri, rfl, h.exists_pos_resource, hnamed.bareEnds_uri, ?_⟩
  intro s' h' hok'
  rw [← ((parse_eq_ok_iff s h).mp hok).2, ← ((parse_eq_ok_iff s' h').mp hok').2,
    String.toList_inj, uri_inj]

/-- A text with a resource that has a separator in it, in white space, and a bare resource that has
to be completed. Each names the key of its canonical form; what is left of an unknown scheme does
not matter. -/
theorem parse_canonical_padded :
    let aws : Handle := ⟨.aws, "arn://k"⟩
    let cloud : Handle := ⟨.gcp, "projects/k"⟩
    parse "\u2003aws-kms://arn://k\t" = .ok aws ∧ parse aws.uri = .ok aws ∧
      canonical "projects/k".toList = cloud.uri.toList ∧ parse "projects/k " = .ok cloud ∧
      parse " vault://" = .error (.unknownScheme "vault") := by
  intro aws cloud
  have haws : parse "\u2003aws-kms://arn://k\t" = .ok aws := by decide +kernel
  have hcloud : canonical "projects/k".toList = cloud.uri.toList := by decide +kernel
  have htrim : Text.trimChars "projects/k ".toList = "projects/k".toList := by decide +kernel
  have hvault : Text.trimChars " vault://".toList = "vault://".toList := by decide +kernel
  obtain ⟨hagain, -⟩ := (parse_canonical "\u2003aws-kms://arn://k\t").2.1 aws haws
  have hbare := ((parse_canonical "projects/k ").1 cloud).mpr
    ⟨by decide, by rw [htrim, hcloud]⟩
  have hrefused : Refused "vault://".toList (.unknownScheme "vault") :=
    @Refused.unknownScheme ['v', 'a', 'u', 'l', 't'] [] (by decide +kernel)
      (by rintro ⟨⟩ <;> decide +kernel)
  have herror := ((parse_canonical " vault://").2.2 (.unknownScheme "vault")).mpr
    (by rw [hvault]; exact hrefused)
  exact ⟨haws, hagain, hcloud, hbare, herror⟩

end PathSeal.Key.Handle
