import PathSeal.Proofs.Envelope.Exactness

/-!
# PathSeal.Proofs.Kms.Registration

Key sets grow by registrations: of a handle with the key that a seed gives it, or of
one with a random key. What a handle ends up with depends on its last registration only
(`Local.find?_of_foldlM`), and the derived key depends on the seed and the handle only.
So two processes that share a seed agree on the key of every handle that both of them
derive last, however else they set up their keys, and each reads what the other wrote
(`enrolled_interoperable`).
-/

namespace PathSeal.Kms

open Bytes

/-- The registration of a handle. -/
inductive Registration where
  /-- With the key that the seed of the process gives it. -/
  | derived (handle : Key.Handle)
  /-- With the next random bytes. -/
  | random (handle : Key.Handle)

/-- The handle that is registered. -/
def Registration.handle : Registration → Key.Handle
  | derived handle => handle
  | random handle => handle

/-- The last registration of a handle is a derived one. -/
def DerivedLast (regs : List Registration) (handle : Key.Handle) : Prop :=
  ∃ before after, regs = before ++ .derived handle :: after ∧
    handle ∉ after.map Registration.handle

namespace Local

variable (seed : Bytes)

/-- One registration. -/
def enroll (state : Local × Entropy) : Registration → Except SeedError (Local × Entropy)
  | .derived handle => do
    let kms ← state.1.registerDerived seed handle
    return (kms, state.2)
  | .random handle => return state.1.registerRandom state.2 handle

/-- The keys after some registrations, one after another, and the random bytes that are left. -/
def enrolled (entropy : Entropy) (regs : List Registration) :
    Except SeedError (Local × Entropy) :=
  regs.foldlM (enroll seed) (empty, entropy)

variable {seed} (hseed : minSeedLength ≤ seed.length)

include hseed

/-- A registration succeeds with a seed that is long enough. It registers its handle with some key,
and a derived one with the key that the seed gives it. -/
theorem exists_enroll (state : Local × Entropy) (reg : Registration) :
    ∃ key rest, enroll seed state reg = .ok (state.1.register reg.handle key, rest) ∧
      ∀ handle, reg = .derived handle → key = derivedKey seed handle := by
  cases reg with
  | derived handle =>
    refine ⟨derivedKey seed handle, state.2, ?_, ?_⟩
    · rw [enroll, registerDerived, if_neg (Nat.not_lt.mpr hseed)]
      rfl
    · intro other h
      rw [Registration.derived.inj h]
  | random handle => exact ⟨_, _, rfl, nofun⟩

/-- So do any number of registrations. Registered after them are the handles of these
registrations, and those registered before. -/
theorem exists_foldlM_enroll (regs : List Registration) (state : Local × Entropy) :
    ∃ kms rest, regs.foldlM (enroll seed) state = .ok (kms, rest) ∧
      (∀ handle, kms.contains handle ↔
        handle ∈ regs.map Registration.handle ∨ state.1.contains handle) ∧
      ∀ handle, handle ∉ regs.map Registration.handle →
        kms.find? handle = state.1.find? handle := by
  induction regs generalizing state with
  | nil =>
    refine ⟨state.1, state.2, rfl, ?_, ?_⟩
    · intro handle
      simp
    · intro handle _
      rfl
  | cons first regs ih =>
    obtain ⟨key, rest, hstep, -⟩ := exists_enroll hseed state first
    obtain ⟨kms, final, hrun, hcontains, hfind⟩ := ih (state.1.register first.handle key, rest)
    refine ⟨kms, final, ?_, ?_, ?_⟩
    · rw [List.foldlM_cons, hstep]
      exact hrun
    · intro handle
      rw [hcontains, contains_register, List.map_cons, List.mem_cons, or_left_comm, or_assoc]
    · intro handle hother
      rw [List.map_cons, List.mem_cons, not_or] at hother
      rw [hfind handle hother.2, find?_register, if_neg hother.1]

/-- A handle that is derived last has the key that the seed gives it. -/
theorem find?_of_foldlM {regs : List Registration} {handle : Key.Handle}
    (hlast : DerivedLast regs handle) {state final : Local × Entropy}
    (hrun : regs.foldlM (enroll seed) state = .ok final) :
    final.1.find? handle = some (derivedKey seed handle) := by
  obtain ⟨before, after, rfl, hafter⟩ := hlast
  obtain ⟨kms, rest, hbefore, -⟩ := exists_foldlM_enroll hseed before state
  obtain ⟨key, rest', hstep, hkey⟩ := exists_enroll hseed (kms, rest) (.derived handle)
  obtain ⟨kms', rest'', hrest, -, hfind⟩ :=
    exists_foldlM_enroll hseed after (kms.register handle key, rest')
  have hsplit : (before ++ .derived handle :: after).foldlM (enroll seed) state =
      .ok (kms', rest'') := by
    rw [List.foldlM_append, hbefore]
    show (Registration.derived handle :: after).foldlM (enroll seed) (kms, rest) = _
    rw [List.foldlM_cons, hstep]
    exact hrest
  rw [hsplit] at hrun
  rw [← Except.ok.inj hrun, hfind handle hafter, find?_register, if_pos rfl, hkey handle rfl]

end Local

/-! ## Two key sets -/

section

variable {kms kms' : Local} {handle : Key.Handle}

/-- A key set unwraps what another one wrapped, if both have the same key for the handle. -/
theorem Local.unwrap_of_wrap (hsame : kms.find? handle = kms'.find? handle) {dek : Bytes}
    {wrapped : Key.Wrapped} {w : World κ}
    (hwrap : (kms.wrapper.wrap handle dek w).1.value = .ok wrapped) (w' : World κ') :
    (kms'.wrapper.unwrap handle wrapped w').1.value = .ok dek := by
  obtain ⟨master, hmaster, hwrapped⟩ := (wrap_eq_ok_iff ..).mp hwrap
  rw [hsame] at hmaster
  have hunwrapped := (unwrapWith_eq_ok_iff ..).mpr ⟨⟨_, Entropy.length_peek ..⟩, hwrapped⟩
  exact (unwrap_eq_ok_iff ..).mpr ⟨master, hmaster, hunwrapped⟩

/-- And it opens what the other one sealed, with the same algorithm. -/
theorem Local.openBytes_of_sealToBytes (hsame : kms.find? handle = kms'.find? handle)
    {options options' : Envelope.Options} (halgorithm : options'.algorithm = options.algorithm)
    {path : String} {plaintext stored : Bytes} {w : World κ}
    (hseal : ((⟨kms.wrapper, options⟩ : Envelope.Codec κ).sealToBytes handle path plaintext
      w).1.value = .ok stored) (w' : World κ') :
    ((⟨kms'.wrapper, options'⟩ : Envelope.Codec κ').openBytes handle path stored w').1.value =
      .ok plaintext := by
  have hsealed := (Envelope.sealToBytes_eq_ok_iff_sealedWith ..).mp hseal
  have hlen := hsealed.length_le
  obtain ⟨hpath, master, box, wrappedKey, hmaster, hbox, hwrapped, hstored⟩ := hsealed
  rw [hsame] at hmaster
  rw [← halgorithm] at hbox
  rw [Envelope.openBytes_eq_ok_iff_sealedWith _ _ _ _ _ _ hlen]
  exact ⟨_, _, _, hpath, master, box, wrappedKey, hmaster, hbox, hwrapped, hstored⟩

end

/-- **Processes that share a seed read each other's data.** Any registrations succeed with a seed of
at least 32 bytes, and the registered handles are just those of the registrations. Take two key sets
that are set up so, each by registrations and with random bytes of its own, and a handle that both
of them derive last. What one wraps under it the other unwraps, and what one seals under it the
other opens. Within the limits of the cipher neither wrapping a data key nor sealing fails. -/
theorem enrolled_interoperable (seed : Bytes) (hseed : minSeedLength ≤ seed.length)
    (regs regs' : List Registration) (entropy entropy' : Entropy) :
    ∃ kms kms' rest rest',
      Local.enrolled seed entropy regs = .ok (kms, rest) ∧
      Local.enrolled seed entropy' regs' = .ok (kms', rest') ∧
      (∀ handle, kms.contains handle ↔ handle ∈ regs.map Registration.handle) ∧
      ∀ handle, DerivedLast regs handle → DerivedLast regs' handle →
        (∀ (dek : Bytes) (wrapped : Key.Wrapped) (w : World κ) (w' : World κ'),
          (kms.wrapper.wrap handle dek w).1.value = .ok wrapped →
            (kms'.wrapper.unwrap handle wrapped w').1.value = .ok dek) ∧
        (∀ (options options' : Envelope.Options), options'.algorithm = options.algorithm →
          ∀ (path : String) (plaintext stored : Bytes) (w : World κ) (w' : World κ'),
            ((⟨kms.wrapper, options⟩ : Envelope.Codec κ).sealToBytes handle path plaintext
              w).1.value = .ok stored →
            ((⟨kms'.wrapper, options'⟩ : Envelope.Codec κ').openBytes handle path stored
              w').1.value = .ok plaintext) ∧
        ((ofString handle.uri).length ≤ Cipher.maxLength →
          (∀ (dek : Key.Data) (w : World κ),
            ∃ wrapped, (kms.wrapper.wrap handle dek.val w).1.value = .ok wrapped) ∧
          ∀ (options : Envelope.Options) (path : String) (plaintext : Bytes) (w : World κ),
            path ≠ "" → (ofString path).length ≤ Cipher.maxLength →
            plaintext.length ≤ Cipher.maxLength →
            ∃ stored, ((⟨kms.wrapper, options⟩ : Envelope.Codec κ).sealToBytes handle path
              plaintext w).1.value = .ok stored) := by
  obtain ⟨kms, rest, hrun, hcontains, -⟩ :=
    Local.exists_foldlM_enroll hseed regs (.empty, entropy)
  obtain ⟨kms', rest', hrun', -⟩ := Local.exists_foldlM_enroll hseed regs' (.empty, entropy')
  refine ⟨kms, kms', rest, rest', hrun, hrun', ?_, ?_⟩
  · intro handle
    rw [hcontains]
    simp [Local.contains, Local.find?, Local.empty]
  · intro handle hlast hlast'
    have hfind : kms.find? handle = some (Local.derivedKey seed handle) :=
      Local.find?_of_foldlM hseed hlast hrun
    have hfind' : kms'.find? handle = some (Local.derivedKey seed handle) :=
      Local.find?_of_foldlM hseed hlast' hrun'
    have hsame : kms.find? handle = kms'.find? handle := by rw [hfind, hfind']
    have hregistered : kms.contains handle := by rw [Local.contains, hfind, Option.isSome_some]
    refine ⟨?_, ?_, ?_⟩
    · intro dek wrapped w w' hwrap
      exact Local.unwrap_of_wrap hsame hwrap w'
    · intro options options' halgorithm path plaintext stored w w' hseal
      exact Local.openBytes_of_sealToBytes hsame halgorithm hseal w'
    · intro huri
      refine ⟨?_, ?_⟩
      · intro dek w
        obtain ⟨wrapped, hwrapped⟩ := Local.exists_wrapWith (Local.derivedKey seed handle) handle
          ⟨_, Entropy.length_peek ..⟩ dek huri
        exact ⟨wrapped, (Local.wrap_eq_ok_iff ..).mpr ⟨_, hfind, hwrapped⟩⟩
      · intro options path plaintext w hpath hpathLen hlen
        obtain ⟨stored, hsealed⟩ := Envelope.exists_sealedWith kms handle path plaintext
          options.algorithm (Envelope.Codec.drawnKey w) (Envelope.Codec.drawnNonce w)
          (Envelope.Codec.drawnWrapNonce w) hregistered hpath hlen hpathLen huri
        exact ⟨stored, (Envelope.sealToBytes_eq_ok_iff_sealedWith ..).mpr hsealed⟩

/-- A process first gives its key at random and then derives it, a second one does so the other way
round for a key of its own. They share the derived one. -/
theorem enrolled_interoperable_two_processes :
    let seed : Bytes := List.replicate 32 7
    let shared : Key.Handle := ⟨.inProcess, "models"⟩
    let own : Key.Handle := ⟨.inProcess, "drafts"⟩
    let regs : List Registration := [.random shared, .derived shared]
    let regs' : List Registration := [.derived own, .derived shared, .random own]
    let w : World Unit := ⟨.cyclic #[], ()⟩
    let weights := ofString "weights"
    minSeedLength ≤ seed.length ∧ DerivedLast regs shared ∧ DerivedLast regs' shared ∧
      ∃ kms kms' rest rest',
        Local.enrolled seed (.cyclic #[1]) regs = .ok (kms, rest) ∧
        Local.enrolled seed (.cyclic #[2]) regs' = .ok (kms', rest') ∧
        ¬kms.contains own ∧
        (∃ wrapped, (kms.wrapper.wrap shared Key.Data.erased.val w).1.value = .ok wrapped ∧
          (kms'.wrapper.unwrap shared wrapped w).1.value = .ok Key.Data.erased.val) ∧
        ∃ stored,
          ((⟨kms.wrapper, ⟨.aes256Gcm, .ofSeconds 10⟩⟩ : Envelope.Codec Unit).sealToBytes shared
            "gs://bucket/run" weights w).1.value = .ok stored ∧
          ((⟨kms'.wrapper, ⟨.aes256Gcm, .ofSeconds 1⟩⟩ : Envelope.Codec Unit).openBytes shared
            "gs://bucket/run" stored w).1.value = .ok weights := by
  intro seed shared own regs regs' w weights
  have hseed : minSeedLength ≤ seed.length := by decide
  have hlast : DerivedLast regs shared := ⟨[.random shared], [], rfl, by decide⟩
  have hlast' : DerivedLast regs' shared := ⟨[.derived own], [.random own], rfl, by decide⟩
  obtain ⟨kms, kms', rest, rest', hrun, hrun', hcontains, hshared⟩ :=
    @enrolled_interoperable Unit Unit seed hseed regs regs' (.cyclic #[1]) (.cyclic #[2])
  have hown : ¬kms.contains own := by
    rw [hcontains]
    decide
  obtain ⟨hunwraps, hopens, hwithin⟩ := hshared shared hlast hlast'
  obtain ⟨hwraps, hseals⟩ := hwithin (by decide)
  obtain ⟨wrapped, hwrapped⟩ := hwraps Key.Data.erased w
  obtain ⟨stored, hstored⟩ := hseals ⟨.aes256Gcm, .ofSeconds 10⟩ "gs://bucket/run" weights w
    (by decide) (by decide) (by decide)
  exact ⟨hseed, hlast, hlast', kms, kms', rest, rest', hrun, hrun', hown,
    ⟨wrapped, hwrapped, hunwraps Key.Data.erased.val wrapped w w hwrapped⟩,
    ⟨stored, hstored, hopens ⟨.aes256Gcm, .ofSeconds 10⟩ ⟨.aes256Gcm, .ofSeconds 1⟩ rfl
      "gs://bucket/run" weights stored w w hstored⟩⟩

end PathSeal.Kms
