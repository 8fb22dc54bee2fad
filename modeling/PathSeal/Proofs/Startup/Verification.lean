import PathSeal.Proofs.Envelope.Exactness
import PathSeal.Proofs.Envelope.Opening
import PathSeal.Proofs.Service.Calls
import PathSeal.Startup

/-!
# PathSeal.Proofs.Startup.Verification

How the master keys are verified, over any key service. The keys take turns, and each
meets the surroundings that those before it have left (`turns`). A turn goes one of four
ways (`Turn.Trial`), of which one verifies the key: the probe is sealed, and what was
sealed opens to its payload (`Turn.Passes`). It does so exactly if the service wraps the
data key of the probe and gives it back, both in time (`Turn.passes_iff_replies`).

The first turn that does not pass is the last that is taken (`exists_stops`), so the
verification proves every key or names the first bad one (`verifyKeys_stops`).
-/

namespace PathSeal.Startup

open Envelope (Codec Encryptable)
open Kms (World Timed Call)

/-! ## Faults -/

/-- The master key that a fault is about. -/
def KeyFault.key : KeyFault → Key.Handle
  | sealing key _ => key
  | opening key _ => key
  | different key => key

/-- The outermost text of a fault names the key. -/
theorem KeyFault.exists_chain_eq (fault : KeyFault) :
    ∃ (problem : String) (causes : List String),
      fault.chain = (s!"master key {fault.key}" ++ problem) :: causes := by
  cases fault with
  | sealing key cause => exact ⟨" failed to seal the startup probe", cause.chain, rfl⟩
  | opening key cause => exact ⟨" failed to open the startup probe", cause.chain, rfl⟩
  | different key => exact ⟨" returned a different startup probe payload", [], rfl⟩

/-! ## One key -/

section

variable (codec : Codec κ) (key : Key.Handle) (w : World κ)
  {sealing : Timed (Except Envelope.Error Envelope)} {opening : Timed (Except Envelope.Error Bytes)}
  {w' w'' : World κ}

/-- The event of a probe that is sealed. -/
def sealedProbe (e : Envelope) : Log.Event :=
  Envelope.sealedEvent key probePath probePayload.length e.wrappedKey.length

/-- The event of a probe that is opened again. -/
def openedProbe (e : Envelope) (payload : Bytes) : Log.Event :=
  Envelope.openedEvent key probePath e.ciphertext.length payload.length

/-- A key that does not seal the probe is bad. -/
theorem verifyKey_of_unsealed {cause : Envelope.Error}
    (hseal : codec.sealPayload key probePath probePayload w = (sealing, w'))
    (hvalue : sealing.value = .error cause) :
    verifyKey codec key w = (⟨[], some (.sealing key cause)⟩, w') := by
  simp only [verifyKey, bind, StateT.bind, Codec.sealLogged_eq, hseal, hvalue]
  rfl

variable {e : Envelope}

theorem openLogged_probe (hopen : codec.openBytes key probePath e.encode w' = (opening, w'')) :
    let made (payload : Bytes) : Envelope.Made := ⟨payload, openedProbe key e payload⟩
    codec.openLogged key probePath e.encode w' =
      ({ opening with value := opening.value.map made }, w'') := by
  have hbytes := (Envelope.ofBytes_eq_ok_iff e.encode e).mpr rfl
  rw [Codec.openLogged_of_ok codec key probePath w' hbytes, hopen]
  rfl

variable (hseal : codec.sealPayload key probePath probePayload w = (sealing, w'))
  (hsealed : sealing.value = .ok e)
  (hopen : codec.openBytes key probePath e.encode w' = (opening, w''))

include hseal hsealed hopen

/-- A key that does not open what it has sealed is bad, too. -/
theorem verifyKey_of_unopened {cause : Envelope.Error} (hvalue : opening.value = .error cause) :
    verifyKey codec key w = (⟨[sealedProbe key e], some (.opening key cause)⟩, w'') := by
  have hlogged := openLogged_probe codec key hopen
  simp only [verifyKey, bind, StateT.bind, Codec.sealLogged_eq, hseal, hsealed, Except.map,
    hlogged, hvalue]
  rfl

/-- So is a key that opens it to something else. -/
theorem verifyKey_of_different {payload : Bytes} (hvalue : opening.value = .ok payload)
    (hpayload : payload ≠ probePayload) :
    verifyKey codec key w =
      (⟨[sealedProbe key e, openedProbe key e payload], some (.different key)⟩, w'') := by
  have hlogged := openLogged_probe codec key hopen
  simp only [verifyKey, bind, StateT.bind, Codec.sealLogged_eq, hseal, hsealed, Except.map,
    hlogged, hvalue, if_neg hpayload]
  rfl

/-- A key that opens it to the payload of the probe is verified. -/
theorem verifyKey_of_opened (hvalue : opening.value = .ok probePayload) :
    verifyKey codec key w =
      (⟨[sealedProbe key e, openedProbe key e probePayload, verifiedEvent key], none⟩, w'') := by
  have hlogged := openLogged_probe codec key hopen
  simp only [verifyKey, bind, StateT.bind, Codec.sealLogged_eq, hseal, hsealed, Except.map,
    hlogged, hvalue]
  rfl

end

/-! ## Turns -/

/-- A master key whose turn it is, and the surroundings at that time. -/
structure Turn (κ : Type) where
  key : Key.Handle
  world : World κ

namespace Turn

variable (t : Turn κ) (codec : Codec κ)

/-- The data key of the probe. -/
def dataKey : Bytes :=
  t.world.entropy.peek 32

/-- What encrypting the probe under some material comes to, with the nonce of the turn. -/
def encrypting (material : Bytes) : Except Cipher.CipherError Cipher.Box :=
  Cipher.encrypt codec.options.algorithm material ((t.world.entropy.skip 32).peek 12) probePayload
    (Bytes.ofString probePath)

/-- The service's reply to the call that wraps the data key, once data key and nonce are drawn. -/
def wrapping : Timed (Except Kms.Error Key.Wrapped) × World κ :=
  codec.wrapper.wrap t.key t.dataKey { t.world with entropy := t.world.entropy.skip 44 }

/-- Its reply to a call after that, which unwraps a key. -/
def unwrapping (wrapped : Key.Wrapped) : Timed (Except Kms.Error Bytes) × World κ :=
  codec.wrapper.unwrap t.key wrapped (t.wrapping codec).2

/-- What comes of sealing the probe. -/
def sealing : Timed (Except Envelope.Error Envelope) × World κ :=
  codec.sealPayload t.key probePath probePayload t.world

/-- What comes of opening the probe again, once it is sealed. -/
def opening (e : Envelope) : Timed (Except Envelope.Error Bytes) × World κ :=
  codec.openBytes t.key probePath e.encode (t.sealing codec).2

/-- The verification of the key, and the surroundings after it. -/
def verification : Verification × World κ :=
  verifyKey codec t.key t.world

/-- The calls that the verification makes. -/
def calls : List Call :=
  (verifyKey codec.recorded t.key (t.world.noting [])).2.kms.2

/-- The probe is sealed, and what was sealed opens to its payload. -/
def Passes : Prop :=
  ∃ e, (t.sealing codec).1.value = .ok e ∧ (t.opening codec e).1.value = .ok probePayload

/-- The ways a turn can go: what the verification reports and which calls it makes. There is always
a call to wrap the data key of the probe; and if the service gives a wrapped key for it in time,
there is a call to unwrap just this. -/
inductive Trial : Verification → List Call → Prop where
  /-- The probe is not sealed. -/
  | unsealed (cause : Envelope.Error) (hsealing : (t.sealing codec).1.value = .error cause) :
    Trial ⟨[], some (.sealing t.key cause)⟩ [.wrap t.key t.dataKey]
  /-- What was sealed does not open. -/
  | unopened (e : Envelope) (cause : Envelope.Error)
      (hsealing : (t.sealing codec).1.value = .ok e)
      (hreply : (t.wrapping codec).1.value = .ok e.wrappedKey)
      (hopening : (t.opening codec e).1.value = .error cause) :
    Trial ⟨[sealedProbe t.key e], some (.opening t.key cause)⟩
      [.wrap t.key t.dataKey, .unwrap t.key e.wrappedKey.bytes]
  /-- It opens to another payload. -/
  | different (e : Envelope) (payload : Bytes)
      (hsealing : (t.sealing codec).1.value = .ok e)
      (hreply : (t.wrapping codec).1.value = .ok e.wrappedKey)
      (hopening : (t.opening codec e).1.value = .ok payload) (hpayload : payload ≠ probePayload) :
    Trial ⟨[sealedProbe t.key e, openedProbe t.key e payload], some (.different t.key)⟩
      [.wrap t.key t.dataKey, .unwrap t.key e.wrappedKey.bytes]
  /-- It opens to the payload of the probe. -/
  | verified (e : Envelope) (hsealing : (t.sealing codec).1.value = .ok e)
      (hreply : (t.wrapping codec).1.value = .ok e.wrappedKey)
      (hopening : (t.opening codec e).1.value = .ok probePayload) :
    Trial ⟨[sealedProbe t.key e, openedProbe t.key e probePayload, verifiedEvent t.key], none⟩
      [.wrap t.key t.dataKey, .unwrap t.key e.wrappedKey.bytes]

/-- The probe has a path and can be encrypted, so sealing it comes to the call. -/
theorem sealingCalls_eq :
    Codec.sealingCalls t.key probePath probePayload t.world = [.wrap t.key t.dataKey] := by
  have hencryptable : probePath ≠ "" ∧ Encryptable probePath probePayload := by decide
  rw [Codec.sealingCalls, if_pos hencryptable]
  rfl

/-- What was sealed is an envelope, so opening it comes to the call. -/
theorem openingCalls_eq (e : Envelope) :
    Codec.openingCalls t.key probePath e.encode = [.unwrap t.key e.wrappedKey.bytes] := by
  have hpath : probePath ≠ "" := by decide
  have hbytes := (Envelope.ofBytes_eq_ok_iff e.encode e).mpr rfl
  rw [Codec.openingCalls, if_neg hpath, hbytes]

/-- The envelope of a sealed probe holds the wrapped key that the service gave. -/
theorem wrapping_of_sealing {e : Envelope} (h : (t.sealing codec).1.value = .ok e) :
    (t.wrapping codec).1.value = .ok e.wrappedKey := by
  obtain ⟨-, box, wrappedKey, -, -, hreply, rfl⟩ := (Codec.sealPayload_eq_ok_iff ..).mp h
  exact hreply

/-- Sealing leaves the surroundings as its call does. -/
theorem world_sealing : (t.sealing codec).2 = (t.wrapping codec).2 := by
  rw [sealing, codec.sealPayload_of_encryptable t.key probePath probePayload t.world (by decide)
    (by decide)]
  rfl

/-- A turn passes exactly if the service wraps the data key in time, and in time gives back for it
that data key, or material under which the probe is encrypted to the same. -/
theorem passes_iff_replies :
    t.Passes codec ↔
      ∃ wrapped material,
        (t.wrapping codec).1.millis ≤ codec.options.kmsTimeout.ticks ∧
        (t.wrapping codec).1.value = .ok wrapped ∧
        (t.unwrapping codec wrapped).1.millis ≤ codec.options.kmsTimeout.ticks ∧
        (t.unwrapping codec wrapped).1.value = .ok material ∧
        t.encrypting codec material = t.encrypting codec t.dataKey := by
  have hpath : probePath ≠ "" := by decide
  have hencryptable : Encryptable probePath probePayload := by decide
  have hbox := Envelope.encrypt_eq codec.options.algorithm (Codec.drawnKey t.world)
    (Codec.drawnNonce t.world) probePath probePayload
  rw [if_pos hencryptable] at hbox
  have hlen : (codec.options.algorithm.lock (Codec.drawnKey t.world).val
      (Codec.drawnNonce t.world).val probePayload
      (Bytes.ofString probePath)).ciphertext.length ≤ Cipher.maxLength := by
    rw [codec.options.algorithm.length_ciphertext_lock]
    exact hencryptable.1
  constructor
  · rintro ⟨e, hsealing, hopening⟩
    obtain ⟨-, box, wrapped, hbox', htime, hwrapped, rfl⟩ :=
      (Codec.sealPayload_eq_ok_iff ..).mp hsealing
    rw [hbox] at hbox'
    obtain rfl := Except.ok.inj hbox'
    rw [opening, codec.openBytes_encode t.key probePath _ hpath] at hopening
    cases (codec.openingOf_eq_iff_ruling t.key probePath _ hlen _).mp hopening with
    | opened material _ htime' hreply hencrypts =>
      rw [world_sealing] at htime' hreply
      exact ⟨wrapped, material, htime, hwrapped, htime', hreply, hencrypts.trans hbox.symm⟩
  · rintro ⟨wrapped, material, htime, hwrapped, htime', hreply, hsame⟩
    refine ⟨_, (Codec.sealPayload_eq_ok_iff ..).mpr
      ⟨hpath, _, wrapped, hbox, htime, hwrapped, rfl⟩, ?_⟩
    rw [opening, codec.openBytes_encode t.key probePath _ hpath, world_sealing]
    exact (codec.openingOf_eq_iff_ruling t.key probePath _ hlen _).mpr
      (.opened material probePayload htime' hreply (hsame.trans hbox))

/-- Every turn goes one of these ways. A record of the calls changes nothing else of it. -/
theorem exists_trial :
    ∃ calls, t.Trial codec (t.verification codec).1 calls ∧
      ∀ earlier, verifyKey codec.recorded t.key (t.world.noting earlier) =
        ((t.verification codec).1, (t.verification codec).2.noting (earlier ++ calls)) := by
  have hseal : codec.sealPayload t.key probePath probePayload t.world =
      ((t.sealing codec).1, (t.sealing codec).2) := rfl
  have hopen (e : Envelope) : codec.openBytes t.key probePath e.encode (t.sealing codec).2 =
      ((t.opening codec e).1, (t.opening codec e).2) := rfl
  have hsealRecorded (earlier : List Call) :
      codec.recorded.sealPayload t.key probePath probePayload (t.world.noting earlier) =
        ((t.sealing codec).1,
          (t.sealing codec).2.noting (earlier ++ [.wrap t.key t.dataKey])) := by
    rw [← t.sealingCalls_eq]
    exact codec.sealPayload_recorded t.key probePath probePayload t.world earlier
  have hopenRecorded (e : Envelope) (earlier : List Call) :
      codec.recorded.openBytes t.key probePath e.encode ((t.sealing codec).2.noting earlier) =
        ((t.opening codec e).1,
          (t.opening codec e).2.noting (earlier ++ [.unwrap t.key e.wrappedKey.bytes])) := by
    rw [← t.openingCalls_eq]
    exact codec.openBytes_recorded t.key probePath e.encode (t.sealing codec).2 earlier
  rw [verification]
  cases hsealing : (t.sealing codec).1.value with
  | error cause =>
    rw [verifyKey_of_unsealed codec t.key t.world hseal hsealing]
    refine ⟨_, .unsealed cause hsealing, fun earlier => ?_⟩
    exact verifyKey_of_unsealed codec.recorded t.key _ (hsealRecorded earlier) hsealing
  | ok e =>
    have hreply := t.wrapping_of_sealing codec hsealing
    have hopenNext (earlier : List Call) := hopenRecorded e (earlier ++ [.wrap t.key t.dataKey])
    simp only [List.append_assoc, List.singleton_append] at hopenNext
    cases hopening : (t.opening codec e).1.value with
    | error cause =>
      rw [verifyKey_of_unopened codec t.key t.world hseal hsealing (hopen e) hopening]
      refine ⟨_, .unopened e cause hsealing hreply hopening, fun earlier => ?_⟩
      exact verifyKey_of_unopened codec.recorded t.key _ (hsealRecorded earlier) hsealing
        (hopenNext earlier) hopening
    | ok payload =>
      by_cases hpayload : payload = probePayload
      · rw [hpayload] at hopening
        rw [verifyKey_of_opened codec t.key t.world hseal hsealing (hopen e) hopening]
        refine ⟨_, .verified e hsealing hreply hopening, fun earlier => ?_⟩
        exact verifyKey_of_opened codec.recorded t.key _ (hsealRecorded earlier) hsealing
          (hopenNext earlier) hopening
      · rw [verifyKey_of_different codec t.key t.world hseal hsealing (hopen e) hopening hpayload]
        refine ⟨_, .different e payload hsealing hreply hopening hpayload, fun earlier => ?_⟩
        exact verifyKey_of_different codec.recorded t.key _ (hsealRecorded earlier) hsealing
          (hopenNext earlier) hopening hpayload

/-- So do the calls that it makes. -/
theorem trial_recorded :
    t.Trial codec (t.verification codec).1 (t.calls codec) ∧
      ∀ earlier, verifyKey codec.recorded t.key (t.world.noting earlier) =
        ((t.verification codec).1,
          (t.verification codec).2.noting (earlier ++ t.calls codec)) := by
  obtain ⟨calls, htrial, hrecorded⟩ := t.exists_trial codec
  have hcalls : t.calls codec = calls := by
    rw [Turn.calls, hrecorded []]
    rfl
  rw [hcalls]
  exact ⟨htrial, hrecorded⟩

variable {t} {codec}

/-- A turn passes exactly if it ends without a fault. -/
theorem Trial.passes_iff {report : Verification} {calls : List Call}
    (h : t.Trial codec report calls) : t.Passes codec ↔ report.fault = none := by
  cases h with
  | unsealed cause hsealing => simp [Passes, hsealing]
  | unopened e cause hsealing _ hopening => simp [Passes, hsealing, hopening]
  | different e payload hsealing _ hopening hpayload =>
    simp [Passes, hsealing, hopening, hpayload]
  | verified e hsealing _ hopening => simp [Passes, hsealing, hopening]

/-- A fault is about the key whose turn it is. -/
theorem Trial.key_of_fault {report : Verification} {calls : List Call} {fault : KeyFault}
    (h : t.Trial codec report calls) (hfault : report.fault = some fault) : fault.key = t.key := by
  cases h <;> cases hfault <;> rfl

/-- A turn tells that its key is verified exactly if it passes. -/
theorem Trial.verified_events {report : Verification} {calls : List Call}
    (h : t.Trial codec report calls) :
    report.events.filter (·.message == "master key verified") =
      if report.fault = none then [verifiedEvent t.key] else [] := by
  cases h <;> rfl

/-- A turn that passes makes a call to wrap the data key of the probe, and then one to unwrap what
the service gave for it. -/
theorem Trial.calls_of_passes {report : Verification} {calls : List Call}
    (h : t.Trial codec report calls) (hpasses : report.fault = none) :
    ∃ wrapped, (t.wrapping codec).1.value = .ok wrapped ∧
      calls = [.wrap t.key t.dataKey, .unwrap t.key wrapped.bytes] := by
  cases h with
  | unsealed | unopened | different => contradiction
  | verified e _ hreply => exact ⟨e.wrappedKey, hreply, rfl⟩

/-- Without a wrapped key there is one call, and the probe is not sealed. -/
theorem Trial.exists_unsealed {report : Verification} {calls : List Call}
    (h : t.Trial codec report calls)
    (hwrapping : ∀ wrapped, (t.wrapping codec).1.value ≠ .ok wrapped) :
    ∃ cause, report = ⟨[], some (.sealing t.key cause)⟩ ∧ calls = [.wrap t.key t.dataKey] := by
  cases h with
  | unsealed cause => exact ⟨cause, rfl, rfl⟩
  | unopened _ _ _ hreply | different _ _ _ hreply | verified _ _ hreply =>
    exact absurd hreply (hwrapping _)

variable (t) (codec)

theorem fault_eq_none_iff : (t.verification codec).1.fault = none ↔ t.Passes codec :=
  (t.trial_recorded codec).1.passes_iff.symm

/-- Over master keys in the process, a turn passes exactly if its key is registered and the URI of
the key is within the limit of the cipher. -/
theorem passes_local_iff (kms : Kms.Local) (options : Envelope.Options) :
    t.Passes ⟨kms.wrapper, options⟩ ↔
      kms.contains t.key ∧ (Bytes.ofString t.key.uri).length ≤ Cipher.maxLength := by
  constructor
  · rintro ⟨e, hseal, -⟩
    have hstored :=
      (Codec.sealToBytes_eq_ok_iff _ t.key probePath probePayload t.world _).mpr ⟨e, hseal, rfl⟩
    obtain ⟨-, master, box, wrappedKey, hmaster, -, hwrapped, -⟩ :=
      (Envelope.sealToBytes_eq_ok_iff_sealedWith ..).mp hstored
    obtain ⟨wrapBox, hbox, -⟩ := (Kms.Local.wrapWith_eq_ok_iff ..).mp hwrapped
    obtain ⟨hlengths, -⟩ := (Cipher.encrypt_eq_ok_iff ..).mp hbox
    exact ⟨Option.isSome_iff_exists.mpr ⟨master, hmaster⟩, hlengths.2⟩
  · rintro ⟨hcontains, huri⟩
    obtain ⟨stored, hsealed⟩ := Envelope.exists_sealedWith kms t.key probePath probePayload
      options.algorithm (Codec.drawnKey t.world) (Codec.drawnNonce t.world)
      (Codec.drawnWrapNonce t.world) hcontains (by decide) (by decide) (by decide) huri
    have hstored := (Envelope.sealToBytes_eq_ok_iff_sealedWith kms options t.key probePath
      probePayload stored t.world).mpr hsealed
    obtain ⟨e, hseal, rfl⟩ := (Codec.sealToBytes_eq_ok_iff ..).mp hstored
    exact ⟨e, hseal, Envelope.openBytes_of_sealToBytes kms options t.key probePath probePayload _
      hstored _⟩

end Turn

/-! ## All keys -/

variable (codec : Codec κ)

/-- The turns of some keys, each in the surroundings that those before it leave. -/
def turns : List Key.Handle → World κ → List (Turn κ)
  | [], _ => []
  | key :: keys, w => ⟨key, w⟩ :: turns keys (verifyKey codec key w).2

/-- The calls that the verification of some keys makes. -/
def callsToVerify (keys : List Key.Handle) (w : World κ) : List Call :=
  (verifyKeys codec.recorded keys (w.noting [])).2.kms.2

@[simp] theorem map_key_turns (keys : List Key.Handle) (w : World κ) :
    (turns codec keys w).map Turn.key = keys := by
  induction keys generalizing w with
  | nil => rfl
  | cons key keys ih => rw [turns, List.map_cons, ih]

/-- After a bad key no other has its turn. -/
theorem verifyKeys_of_fault {key : Key.Handle} (keys : List Key.Handle) {w : World κ}
    (h : (verifyKey codec key w).1.fault ≠ none) :
    verifyKeys codec (key :: keys) w = verifyKey codec key w := by
  rcases hfirst : verifyKey codec key w with ⟨⟨events, fault⟩, w'⟩
  rw [hfirst] at h
  simp only [verifyKeys, bind, StateT.bind, hfirst]
  cases fault with
  | none => contradiction
  | some fault => rfl

/-- After a key that is verified come the others. -/
theorem verifyKeys_of_verified {key : Key.Handle} (keys : List Key.Handle) {w : World κ}
    (h : (verifyKey codec key w).1.fault = none) :
    verifyKeys codec (key :: keys) w =
      let first := verifyKey codec key w
      let rest := verifyKeys codec keys first.2
      ({ rest.1 with events := first.1.events ++ rest.1.events }, rest.2) := by
  rcases hfirst : verifyKey codec key w with ⟨⟨events, fault⟩, w'⟩
  rw [hfirst] at h
  simp only [verifyKeys, bind, StateT.bind, hfirst]
  cases fault with
  | none => rfl
  | some fault => contradiction

/-- A verification takes some turns in which the keys are verified, and then at most one more, in
which the key is bad. What it reports and which calls it makes is that of these turns, one after
another. -/
structure Stops (keys : List Key.Handle) (w : World κ) (before after : List (Turn κ)) : Prop where
  turns_eq : turns codec keys w = before ++ after
  verified : ∀ t ∈ before, (t.verification codec).1.fault = none
  bad : ∀ t ∈ after.head?, (t.verification codec).1.fault ≠ none
  fault_eq : (verifyKeys codec keys w).1.fault =
    after.head?.bind fun t => (t.verification codec).1.fault
  events_eq : (verifyKeys codec keys w).1.events =
    (before ++ after.take 1).flatMap fun t => (t.verification codec).1.events
  recorded_eq : ∀ earlier, verifyKeys codec.recorded keys (w.noting earlier) =
    ((verifyKeys codec keys w).1, (verifyKeys codec keys w).2.noting
      (earlier ++ (before ++ after.take 1).flatMap (Turn.calls · codec)))

/-- Every verification stops so. -/
theorem exists_stops (keys : List Key.Handle) (w : World κ) :
    ∃ before after, Stops codec keys w before after := by
  induction keys generalizing w with
  | nil =>
    refine ⟨[], [], rfl, by simp, by simp, rfl, rfl, fun earlier => ?_⟩
    simp only [List.append_nil, List.take_nil, List.flatMap_nil]
    rfl
  | cons key keys ih =>
    let t : Turn κ := ⟨key, w⟩
    have hrecorded := (t.trial_recorded codec).2
    by_cases hfault : (verifyKey codec key w).1.fault = none
    · obtain ⟨before, after, hstops⟩ := ih (verifyKey codec key w).2
      have hkeys := verifyKeys_of_verified codec keys hfault
      refine ⟨t :: before, after, ?_, ?_, hstops.bad, ?_, ?_, ?_⟩
      · rw [turns, hstops.turns_eq]
        rfl
      · exact List.forall_mem_cons.mpr ⟨hfault, hstops.verified⟩
      · rw [hkeys]
        exact hstops.fault_eq
      · rw [hkeys, List.cons_append, List.flatMap_cons, ← hstops.events_eq]
        rfl
      · intro earlier
        have hfirst : (verifyKey codec.recorded key (w.noting earlier)).1.fault = none := by
          rw [hrecorded earlier]
          exact hfault
        rw [verifyKeys_of_verified codec.recorded keys hfirst, hrecorded earlier, hkeys]
        dsimp only
        rw [Turn.verification, hstops.recorded_eq, List.append_assoc, List.cons_append,
          List.flatMap_cons]
    · have hkeys := verifyKeys_of_fault codec keys hfault
      refine ⟨[], turns codec (key :: keys) w, rfl, by simp, ?_, ?_, ?_, ?_⟩
      · rintro t ⟨⟩
        exact hfault
      · rw [hkeys]
        rfl
      · rw [hkeys]
        simp [turns, Turn.verification]
      · intro earlier
        have hfirst : (verifyKey codec.recorded key (w.noting earlier)).1.fault ≠ none := by
          rw [hrecorded earlier]
          exact hfault
        rw [verifyKeys_of_fault codec.recorded keys hfirst, hrecorded earlier, hkeys]
        simp [turns, Turn.verification, t]

section

variable {codec : Codec κ} {keys : List Key.Handle} {w : World κ} {before after : List (Turn κ)}
  (h : Stops codec keys w before after)

include h

theorem Stops.calls_eq :
    callsToVerify codec keys w = (before ++ after.take 1).flatMap (Turn.calls · codec) := by
  rw [callsToVerify, h.recorded_eq]
  rfl

/-- The keys that are reported as verified are those of the turns before the bad one. -/
theorem Stops.verified_events :
    (verifyKeys codec keys w).1.events.filter (·.message == "master key verified") =
      before.map fun t => verifiedEvent t.key := by
  have hturn (t : Turn κ) := (t.trial_recorded codec).1.verified_events
  have hbad : ∀ t ∈ after.take 1, (t.verification codec).1.fault ≠ none := by
    intro t ht
    rw [List.take_one, Option.mem_toList] at ht
    exact h.bad t ht
  rw [h.events_eq, List.filter_flatMap, List.flatMap_append, List.map_eq_flatMap,
    List.flatMap_eq_nil_iff.mpr fun t ht => (hturn t).trans (if_neg (hbad t ht)), List.append_nil]
  exact List.flatMap_congr fun t ht => (hturn t).trans (if_pos (h.verified t ht))

end

/-- A record of the calls changes nothing of a verification but itself. -/
theorem verifyKeys_recorded (keys : List Key.Handle) (w : World κ) (earlier : List Call) :
    verifyKeys codec.recorded keys (w.noting earlier) =
      ((verifyKeys codec keys w).1,
        (verifyKeys codec keys w).2.noting (earlier ++ callsToVerify codec keys w)) := by
  obtain ⟨before, after, hstops⟩ := exists_stops codec keys w
  rw [hstops.calls_eq, hstops.recorded_eq]

/-- There is no fault exactly if every turn passes. -/
theorem verifyKeys_fault_eq_none_iff_passes (keys : List Key.Handle) (w : World κ) :
    (verifyKeys codec keys w).1.fault = none ↔ ∀ t ∈ turns codec keys w, t.Passes codec := by
  obtain ⟨before, after, hstops⟩ := exists_stops codec keys w
  simp only [← Turn.fault_eq_none_iff]
  rw [hstops.fault_eq, hstops.turns_eq]
  cases after with
  | nil =>
    rw [List.append_nil]
    exact iff_of_true rfl hstops.verified
  | cons t after =>
    have hbad : (t.verification codec).1.fault ≠ none := hstops.bad t rfl
    exact iff_of_false hbad fun hall => hbad (hall t (by simp))

/-- **Startup verification proves every key or names the first bad one.** The keys have their turns
in order. There is no fault if and only if every turn passes: the probe is sealed, and what was
sealed opens to its payload. In general some turns pass, and the first that does not is the last
that is taken; the fault is about its key, which its text names. The keys that are reported as
verified are just those of the turns that pass before it, in order, and only these turns and the bad
one make calls. Each turn that passes makes two: one to wrap the data key of the probe, and then one
to unwrap just what the service gave for it. -/
theorem verifyKeys_stops (codec : Codec κ) (keys : List Key.Handle) (w : World κ) :
    let report := (verifyKeys codec keys w).1
    (turns codec keys w).map Turn.key = keys ∧
    (report.fault = none ↔ ∀ t ∈ turns codec keys w, t.Passes codec) ∧
    ∃ before after, turns codec keys w = before ++ after ∧
      (∀ t ∈ before, t.Passes codec ∧
        ∃ wrapped, (t.wrapping codec).1.value = .ok wrapped ∧
          t.calls codec = [.wrap t.key t.dataKey, .unwrap t.key wrapped.bytes]) ∧
      (∀ t ∈ after.head?, ¬t.Passes codec ∧
        ∃ events fault, t.Trial codec ⟨events, some fault⟩ (t.calls codec) ∧
          report.fault = some fault ∧ fault.key = t.key ∧
          ∃ (problem : String) (causes : List String),
            fault.chain = (s!"master key {t.key}" ++ problem) :: causes) ∧
      report.events.filter (·.message == "master key verified") =
        before.map (fun t =>
          { level := .info
            target := "sealer::startup"
            message := "master key verified"
            fields := [("key", .text t.key.uri)] }) ∧
      callsToVerify codec keys w = (before ++ after.take 1).flatMap (Turn.calls · codec) := by
  intro report
  obtain ⟨before, after, hstops⟩ := exists_stops codec keys w
  have htrial (t : Turn κ) := (t.trial_recorded codec).1
  refine ⟨map_key_turns codec keys w, verifyKeys_fault_eq_none_iff_passes codec keys w, before,
    after, hstops.turns_eq, ?_, ?_, hstops.verified_events, hstops.calls_eq⟩
  · intro t ht
    have hnone := hstops.verified t ht
    exact ⟨(t.fault_eq_none_iff codec).mp hnone, (htrial t).calls_of_passes hnone⟩
  · intro t ht
    have hbad := hstops.bad t ht
    obtain ⟨fault, hfault⟩ := Option.ne_none_iff_exists'.mp hbad
    have hkey := (htrial t).key_of_fault hfault
    refine ⟨mt (t.fault_eq_none_iff codec).mpr hbad, (t.verification codec).1.events, fault, ?_, ?_,
      hkey, ?_⟩
    · rw [← hfault]
      exact htrial t
    · rw [hstops.fault_eq, ht]
      exact hfault
    · rw [← hkey]
      exact fault.exists_chain_eq

/-- The second of three master keys is not registered. The first is verified, there is one call for
the second, and none for the third. -/
theorem verifyKeys_stops_missing :
    let good : Key.Handle := ⟨.inProcess, "good"⟩
    let missing : Key.Handle := ⟨.inProcess, "missing"⟩
    let kms := Kms.Local.empty.register good ⟨List.replicate 32 7, rfl⟩
    let codec : Codec Unit := ⟨kms.wrapper, .standard⟩
    let w : World Unit := ⟨.cyclic #[], ()⟩
    (∃ cause, (verifyKeys codec [good, missing, good] w).1.fault =
      some (.sealing missing cause)) ∧
    (verifyKeys codec [good, missing, good] w).1.events.filter
      (·.message == "master key verified") =
        [{ level := .info
           target := "sealer::startup"
           message := "master key verified"
           fields := [("key", .text "local-kms://good")] }] ∧
    ∃ dek wrapped other, callsToVerify codec [good, missing, good] w =
      [.wrap good dek, .unwrap good wrapped, .wrap missing other] := by
  intro good missing kms codec w
  obtain ⟨-, -, before, after, hturns, hbefore, hafter, hevents, hcalls⟩ :=
    verifyKeys_stops codec [good, missing, good] w
  have hgood : kms.contains good ∧ (Bytes.ofString good.uri).length ≤ Cipher.maxLength := by
    decide +kernel
  have hmissing : kms.find? missing = none := by decide +kernel
  -- What the first two turns leave behind does not matter.
  rw [turns, turns, turns, turns] at hturns
  generalize (verifyKey codec good w).2 = w₂ at hturns
  generalize (verifyKey codec missing w₂).2 = w₃ at hturns
  have hpasses : (⟨good, w⟩ : Turn Unit).Passes codec :=
    (Turn.passes_local_iff _ kms .standard).mpr hgood
  have hwrapping (wrapped : Key.Wrapped) :
      ((⟨missing, w₂⟩ : Turn Unit).wrapping codec).1.value ≠ .ok wrapped := by
    rw [Turn.wrapping, Kms.Local.wrap_of_not_found missing kms _ hmissing]
    intro h
    cases h
  have hfails : ¬(⟨missing, w₂⟩ : Turn Unit).Passes codec := by
    rintro ⟨e, hsealing, -⟩
    exact hwrapping _ (Turn.wrapping_of_sealing _ codec hsealing)
  rcases before with _ | ⟨first, _ | ⟨second, before⟩⟩
  · obtain rfl : _ = after := hturns
    exact absurd hpasses (hafter _ rfl).1
  · obtain ⟨rfl, rfl⟩ := List.cons.inj hturns
    obtain ⟨-, events, fault, htrial, hfault, -⟩ := hafter _ rfl
    obtain ⟨-, wrapped, -, hfirst⟩ := hbefore _ (List.mem_singleton_self _)
    obtain ⟨cause, hreport, hsecond⟩ := htrial.exists_unsealed hwrapping
    obtain ⟨-, hsome⟩ := Verification.mk.inj hreport
    rw [hsome] at hfault
    rw [List.take_succ_cons, List.take_zero, List.singleton_append, List.flatMap_cons,
      List.flatMap_singleton, hfirst, hsecond] at hcalls
    exact ⟨⟨cause, hfault⟩, hevents, _, _, _, hcalls⟩
  · obtain ⟨-, hrest⟩ := List.cons.inj hturns
    obtain ⟨rfl, -⟩ := List.cons.inj hrest
    exact absurd (hbefore _ (by simp)).1 hfails

end PathSeal.Startup
