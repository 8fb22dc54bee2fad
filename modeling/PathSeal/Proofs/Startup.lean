import PathSeal.Proofs.Config.Settings
import PathSeal.Proofs.Envelope.Faults
import PathSeal.Proofs.Kms.Backends
import PathSeal.Proofs.KeyMap.Uris
import PathSeal.Proofs.Startup.Verification

/-!
# PathSeal.Proofs.Startup

Settings that pass the check are enough to start. The table that they describe lists
every key that a path can have, and the key services that are set up for the listed keys
serve each of them (`exists_backends`). If all keys are in the process, each of them
seals and opens the probe (`verifyKeys_fault_eq_none_iff`), and no request fails because
its key is not found (`codecResult_ne_keyNotFound`).
-/

namespace PathSeal.Startup

open Bytes
open Envelope (Codec)
open Kms (World Backends Remote Wrapper)

/-! ## Setting up -/

/-- The master keys that are derived are those of the listed handles in the process. -/
theorem contains_derivedKeys (seed : Bytes) (keys : List Key.Handle) (key : Key.Handle) :
    (derivedKeys seed keys).contains key ↔ key ∈ keys ∧ Config.isInProcess key := by
  have hnone : ¬Kms.Local.empty.contains key := nofun
  rw [derivedKeys, Kms.Local.contains_foldl_register _ (Kms.Local.derivedKey seed),
    List.mem_filter, or_iff_left hnone]

theorem uses_iff (keys : List Key.Handle) (scheme : Key.Scheme) :
    uses keys scheme ↔ ∃ key ∈ keys, key.scheme = scheme := by
  rw [uses, List.any_eq_true]
  simp only [beq_iff_eq]

/-- The key services for some keys can be set up if there is a seed for the keys in the process.
Then there is one for the scheme of each of them, and for no other scheme; and the one in the
process has just the keys of its scheme. -/
theorem exists_backends (c : Config) (keys : List Key.Handle) (google : Kms.Google.Peer σ)
    (amazon : Kms.Amazon.Peer τ) (hseed : keys.any Config.isInProcess → ∃ seed, c.seed = .ok seed) :
    ∃ b, (backends c keys google amazon).1 = .ok b ∧
      (∀ scheme, b.supports scheme ↔ ∃ key ∈ keys, key.scheme = scheme) ∧
      ∀ kms, b.inProcess = some kms →
        ∀ key, kms.contains key ↔ key ∈ keys ∧ Config.isInProcess key := by
  simp only [← uses_iff, backends]
  cases huses : uses keys .inProcess with
  | true =>
    obtain ⟨seed, hseed⟩ := hseed huses
    simp only [if_true, hseed]
    refine ⟨_, rfl, ?_, ?_⟩
    · intro scheme
      cases scheme with
      | gcp => cases hgcp : uses keys .gcp <;> simp [Backends.supports]
      | aws => cases haws : uses keys .aws <;> simp [Backends.supports]
      | inProcess => simp [Backends.supports, huses]
    · intro kms hkms
      rw [← Option.some.inj hkms]
      exact contains_derivedKeys seed keys
  | false =>
    refine ⟨_, rfl, ?_, nofun⟩
    intro scheme
    cases scheme with
    | gcp => cases hgcp : uses keys .gcp <;> simp [Backends.supports]
    | aws => cases haws : uses keys .aws <;> simp [Backends.supports]
    | inProcess => simp [Backends.supports, huses]

/-! ## Verifying -/

/-- Over master keys in the process, a key is verified exactly if it is registered and its URI is
within the limit of the cipher. -/
theorem verifyKey_local_fault_eq_none_iff (kms : Kms.Local) (options : Envelope.Options)
    (key : Key.Handle) (w : World κ) :
    (verifyKey ⟨kms.wrapper, options⟩ key w).1.fault = none ↔
      kms.contains key ∧ (ofString key.uri).length ≤ Cipher.maxLength :=
  (Turn.fault_eq_none_iff ⟨key, w⟩ _).trans (Turn.passes_local_iff ⟨key, w⟩ kms options)

/-- Keys that can each be verified in any surroundings, or in none, are verified if all of them
can. -/
theorem verifyKeys_fault_eq_none_iff (codec : Codec κ) {keys : List Key.Handle}
    {Verifies : Key.Handle → Prop}
    (h : ∀ key ∈ keys, ∀ w, (verifyKey codec key w).1.fault = none ↔ Verifies key) (w : World κ) :
    (verifyKeys codec keys w).1.fault = none ↔ ∀ key ∈ keys, Verifies key := by
  have hturns := map_key_turns codec keys w
  have hpasses (t : Turn κ) (ht : t ∈ turns codec keys w) : t.Passes codec ↔ Verifies t.key := by
    have hmem : t.key ∈ keys := hturns ▸ List.mem_map_of_mem ht
    exact (t.fault_eq_none_iff codec).symm.trans (h t.key hmem t.world)
  have hkeys : (∀ key ∈ keys, Verifies key) ↔ ∀ t ∈ turns codec keys w, Verifies t.key := by
    conv_lhs => rw [← hturns]
    exact List.forall_mem_map
  rw [verifyKeys_fault_eq_none_iff_passes, hkeys]
  exact forall₂_congr hpasses

/-! ## Keys in the process -/

/-- A key is in the process and registered there. -/
def Registers (b : Backends σ τ) (key : Key.Handle) : Prop :=
  key.scheme = .inProcess ∧ ∃ kms, b.inProcess = some kms ∧ kms.contains key

variable {b : Backends σ τ}

/-- Calls for such a key go to the service in the process. -/
theorem exists_find?_of_registers {key : Key.Handle} (h : Registers b key) :
    ∃ kms : Kms.Local, b.find? key.scheme = some kms.wrapper ∧ kms.contains key := by
  obtain ⟨hscheme, kms, hkms, hcontains⟩ := h
  refine ⟨kms, ?_, hcontains⟩
  rw [hscheme, Backends.find?, hkms]
  rfl

/-- Such keys are verified exactly if their URIs are within the limit of the cipher. -/
theorem verifyKeys_of_registers {keys : List Key.Handle} (h : ∀ key ∈ keys, Registers b key)
    (options : Envelope.Options) (w : World (Remote σ τ)) :
    (verifyKeys ⟨b.wrapper, options⟩ keys w).1.fault = none ↔
      ∀ key ∈ keys, (ofString key.uri).length ≤ Cipher.maxLength := by
  apply verifyKeys_fault_eq_none_iff
  intro key hmem w
  obtain ⟨kms, hfind, hcontains⟩ := exists_find?_of_registers (h key hmem)
  -- The verification sees no other service than this one.
  have hsame : verifyKey ⟨b.wrapper, options⟩ key = verifyKey ⟨kms.wrapper, options⟩ key := by
    simp only [verifyKey, Codec.sealLogged, Codec.sealPayload, Codec.openLogged, Codec.openEnvelope,
      Backends.wrap_of_find? hfind, Backends.unwrap_of_find? hfind]
  rw [hsame, verifyKey_local_fault_eq_none_iff]
  exact and_iff_right hcontains

/-- No request for such a key fails because its key is not found. -/
theorem codecResult_ne_keyNotFound {app : Service.App (Remote σ τ)}
    (hwrapper : app.codec.wrapper = b.wrapper)
    (hregisters : ∀ path key, app.keyMap.resolve path = .ok key → Registers b key)
    (r : Service.Request) (w : World (Remote σ τ)) (detail : String) :
    app.codecResult r w ≠ some (.error (.kmsKeyNotFound detail)) := by
  rw [Service.App.codecResult]
  split
  · next op path key hcall =>
    intro hresult
    obtain ⟨-, -, -, -, hpath⟩ := (app.codecCall_eq_some_iff r op path key).mp hcall
    obtain ⟨kms, hfind, hcontains⟩ :=
      exists_find?_of_registers (hregisters path key (app.resolve_of_pathAndKey hpath))
    obtain ⟨n, hvalue⟩ := RetryPolicy.outcome_run _ _ _ _ _ hresult
    cases op with
    | sealing =>
      refine app.codec.sealToBytes_ne_keyNotFound key path r.body _ ?_ hvalue
      intro dek w
      rw [hwrapper, Backends.wrap_of_find? hfind]
      exact Kms.Local.wrap_ne_keyNotFound key kms w hcontains detail dek
    | opening =>
      refine app.codec.openBytes_ne_keyNotFound key path _ r.body ?_ hvalue
      intro wrapped w
      rw [hwrapper, Backends.unwrap_of_find? hfind]
      exact Kms.Local.unwrap_ne_keyNotFound key kms w hcontains detail wrapped
  · nofun

/-! ## Starting -/

/-- The service starts with the table and the key services of its settings, if no key fails its
verification. -/
theorem outcome_start {c : Config} {map : KeyMap} {google : Kms.Google.Peer σ}
    {amazon : Kms.Amazon.Peer τ} (hmap : c.keyMap = .ok map)
    (hb : (backends c map.handles google amazon).1 = .ok b) (w : World (Remote σ τ))
    (hverify : needsVerification c →
      (verifyKeys ⟨b.wrapper, c.codecOptions⟩ map.handles w).1.fault = none) :
    (start c google amazon w).1.outcome = .ok (app c map b, b) := by
  rcases hbackends : backends c map.handles google amazon with ⟨outcome, events⟩
  rw [hbackends] at hb
  dsimp only at hb
  subst hb
  simp only [start, hmap, hbackends]
  cases hneeds : needsVerification c with
  | false => rfl
  | true =>
    have hfault := hverify hneeds
    rcases hrun : verifyKeys ⟨b.wrapper, c.codecOptions⟩ map.handles w with ⟨⟨events, fault⟩, w'⟩
    rw [hrun] at hfault
    dsimp only at hfault
    subst hfault
    simp only [if_true, bind, StateT.bind, app, hrun]
    rfl

/-- **Settings that pass the check are enough to start.** They describe a table and come with all
that its key services need. The table lists every key that it names, and so every key that a path
can have, each once and in the order in which they first occur, the global one first; for each of
them the service of its scheme is set up, and the one in the process has it registered.

If all keys are in the process, they are verified, with whatever algorithm and random bytes, as long
as their URIs are within the limit of the cipher, which they are if the whole mapping text is; the
service starts; and no request ever fails because its key is not found. -/
theorem start_of_validate (c : Config) (google : Kms.Google.Peer σ) (amazon : Kms.Amazon.Peer τ)
    (hvalid : c.validate = .ok ()) :
    ∃ map b, c.keyMap = .ok map ∧ (backends c map.handles google amazon).1 = .ok b ∧
      map.handles.Nodup ∧
      KeyMap.FirstOccurrences (map.globalKey.toList ++ map.entries.map (·.2)) map.handles ∧
      (∀ path key, map.resolve path = .ok key → key ∈ map.handles) ∧
      (∀ key ∈ map.handles, b.supports key.scheme ∧
        (key.scheme = .inProcess → ∃ kms, b.inProcess = some kms ∧ kms.contains key)) ∧
      (needsVerification c = false →
        ∀ w, (start c google amazon w).1.outcome = .ok (app c map b, b)) ∧
      ((∀ key ∈ map.handles, key.scheme = .inProcess) →
        (∀ (options : Envelope.Options) (w : World (Remote σ τ)),
          (verifyKeys ⟨b.wrapper, options⟩ map.handles w).1.fault = none ↔
            ∀ key ∈ map.handles, (ofString key.uri).length ≤ Cipher.maxLength) ∧
        ((ofString c.keyMapping).length ≤ Cipher.maxLength →
          ∀ key ∈ map.handles, (ofString key.uri).length ≤ Cipher.maxLength) ∧
        ((∀ key ∈ map.handles, (ofString key.uri).length ≤ Cipher.maxLength) →
          ∀ w, (start c google amazon w).1.outcome = .ok (app c map b, b)) ∧
        ∀ app : Service.App (Remote σ τ), app.codec.wrapper = b.wrapper → app.keyMap = map →
          ∀ r w detail, app.codecResult r w ≠ some (.error (.kmsKeyNotFound detail))) := by
  obtain ⟨-, map, hmap, -, -, -, -, -, hseed⟩ := (Config.validate_eq_ok_iff c).mp hvalid
  obtain ⟨b, hb, hsupports, hregistered⟩ := exists_backends c map.handles google amazon hseed
  have hregisters {key : Key.Handle} (hmem : key ∈ map.handles)
      (hscheme : key.scheme = .inProcess) : Registers b key := by
    have hsome : b.supports .inProcess := (hsupports .inProcess).mpr ⟨key, hmem, hscheme⟩
    obtain ⟨kms, hkms⟩ := Option.isSome_iff_exists.mp hsome
    refine ⟨hscheme, kms, hkms, (hregistered kms hkms key).mpr ⟨hmem, ?_⟩⟩
    rw [Config.isInProcess, hscheme]
    rfl
  refine ⟨map, b, hmap, hb, map.handles_first.nodup, map.handles_first,
    fun path key => map.mem_handles_of_resolve, ?_, ?_, ?_⟩
  · intro key hmem
    exact ⟨(hsupports key.scheme).mpr ⟨key, hmem, rfl⟩, fun h => (hregisters hmem h).2⟩
  · intro hneeds w
    refine outcome_start hmap hb w fun h => ?_
    rw [hneeds] at h
    contradiction
  · intro hall
    have hkeys (key : Key.Handle) (hmem : key ∈ map.handles) := hregisters hmem (hall key hmem)
    have hparse := (Config.keyMap_eq_ok_iff c map).mp hmap
    refine ⟨verifyKeys_of_registers hkeys, ?_, ?_, ?_⟩
    · intro htext key hmem
      have hscheme : key.scheme ≠ .gcp := by
        rw [hall key hmem]
        decide
      exact (KeyMap.length_uri_le_of_mem_handles hparse hmem hscheme).trans htext
    · intro huris w
      refine outcome_start hmap hb w fun _ => ?_
      exact (verifyKeys_of_registers hkeys c.codecOptions w).mpr huris
    · intro app hwrapper hkeyMap
      refine codecResult_ne_keyNotFound hwrapper ?_
      intro path key hresolve
      rw [hkeyMap] at hresolve
      exact hkeys key (map.mem_handles_of_resolve hresolve)

/-- A deployment with two master keys in the process, one of them for two scopes. -/
theorem start_of_validate_in_process :
    let c : Config :=
      { keyMapping := "data:local-kms://a, data/secret:local-kms://b, logs:local-kms://a"
        algorithm := .aes256GcmSiv
        kmsTimeoutMillis := 10000
        kmsMaxAttempts := 3
        kmsRetryBaseMillis := 100
        listenPort := 9080
        objectPathHeader := "X-Object-Path"
        maxObjectBytes := 1024
        encryptionDisabled := false
        verifyKeysOnStartup := true
        cloudEndpoint := Kms.Google.defaultEndpoint
        accessToken := none
        localSeed := some "AAAAAAAAAAAAAAAAAAAAAAAAAAAAAAAAAAAAAAAAAAA="
        telemetryEndpoint := none
        logLevel := "info" }
    let google : Kms.Google.Peer Unit := .unreachable
    let amazon : Kms.Amazon.Peer Unit := .unreachable
    c.validate = .ok () ∧
      ∃ map b, c.keyMap = .ok map ∧ map.handles = [⟨.inProcess, "a"⟩, ⟨.inProcess, "b"⟩] ∧
        ∀ w, (start c google amazon w).1.outcome = .ok (app c map b, b) := by
  intro c google amazon
  have hvalid : c.validate = .ok () := by decide +kernel
  obtain ⟨map, b, hmap, -, -, -, -, -, -, hinProcess⟩ :=
    start_of_validate c google amazon hvalid
  have hhandles : c.keyMap.map KeyMap.handles =
      .ok [⟨.inProcess, "a"⟩, ⟨.inProcess, "b"⟩] := by decide +kernel
  rw [hmap] at hhandles
  have hlist : map.handles = [⟨.inProcess, "a"⟩, ⟨.inProcess, "b"⟩] := Except.ok.inj hhandles
  rw [hlist] at hinProcess
  obtain ⟨-, huris, hstarts, -⟩ := hinProcess (by decide +kernel)
  exact ⟨hvalid, map, b, hmap, hlist, hstarts (huris (by decide +kernel))⟩

end PathSeal.Startup
