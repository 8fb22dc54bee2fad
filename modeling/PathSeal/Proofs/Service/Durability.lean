import PathSeal.Proofs.Envelope.Exactness
import PathSeal.Proofs.Service.Stages

/-!
# PathSeal.Proofs.Service.Durability

Over master keys in the process, what was sealed stays openable: at any later point
of a run a request to open it, with the same value of the path header, gives the
object back, whatever requests came between
(`serve_open_of_serve_seal`).

The runs themselves are `App.serve`. Each outcome of a run is that of its request
in the surroundings that the requests before it leave (`serve_getElem?`), and no
surroundings matter to opening.
-/

namespace PathSeal.Service

open Kms (World)

namespace App

/-! ## Runs -/

/-- Handles requests one after another. -/
def serve (app : App κ) : List Request → StateM (World κ) (List Outcome)
  | [] => return []
  | r :: rs => do
    let outcome ← app.handle r
    let outcomes ← serve app rs
    return outcome :: outcomes

theorem serve_cons (app : App κ) (r : Request) (rs : List Request) (w : World κ) :
    app.serve (r :: rs) w =
      let first := app.handle r w
      let others := app.serve rs first.2
      (first.1 :: others.1, others.2) := rfl

/-- Each outcome of a run is that of its request after all requests before it. -/
theorem serve_getElem? (app : App κ) (rs : List Request) (w : World κ) (i : Nat) :
    (app.serve rs w).1[i]? =
      rs[i]?.map fun r => (app.handle r (app.serve (rs.take i) w).2).1 := by
  induction rs generalizing w i with
  | nil => rfl
  | cons r rs ih =>
    rw [serve_cons]
    cases i with
    | zero => rfl
    | succ i =>
      rw [List.getElem?_cons_succ, List.getElem?_cons_succ, List.take_succ_cons, serve_cons]
      exact ih _ i

theorem serve_getElem?_of_getElem? (app : App κ) {rs : List Request} {i : Nat} {r : Request}
    (h : rs[i]? = some r) (w : World κ) :
    (app.serve rs w).1[i]? = some (app.handle r (app.serve (rs.take i) w).2).1 := by
  rw [serve_getElem?, h]
  rfl

/-! ## Limits -/

/-- A sealed plaintext within the limits never goes beyond the limit of opening. -/
theorem length_le_maxEnvelopeBytes (app : App κ) {n : Nat} (h : n ≤ app.maxObjectBytes.toNat)
    (hcipher : n ≤ Cipher.maxLength) : n + 92 ≤ app.maxEnvelopeBytes.toNat := by
  have hoverhead : Envelope.maxOverhead = 8224 := rfl
  have hmax : Cipher.maxLength = 68719476736 := rfl
  have hsize : UInt64.size = 18446744073709551616 := rfl
  rw [maxEnvelopeBytes]
  split
  · next hfits =>
    rw [Nat.toUInt64, UInt64.toNat_ofNat_of_lt' hfits]
    omega
  · have hlast : (0xffffffffffffffff : UInt64).toNat = 18446744073709551615 := rfl
    rw [hlast]
    omega

end App

/-! ## Sealed objects -/

/-- A request is posted to an operation with a value of the path header. -/
def Request.Posts (r : Request) (op : Operation) (header : String) (value : Bytes) : Prop :=
  r.method = "POST" ∧ r.path = op.path ∧ r.header? header = some value

section

variable (kms : Kms.Local) (options : Envelope.Options) (app : App κ)

/-- Sealing with the status 200 gives bytes that the codec seals the body to. -/
theorem App.exists_of_status_seal (henabled : app.encryptionEnabled) {r : Request} {w : World κ}
    (h : (app.operate .sealing r w).1.response.status = 200) :
    r.body.length ≤ app.maxObjectBytes.toNat ∧ ∃ path key stored w',
      app.pathAndKey r = .ok (path, key) ∧
      (app.codec.sealToBytes key path r.body w').1.value = .ok stored ∧
      (app.operate .sealing r w).1.response = .octets stored := by
  obtain ⟨hlimit, path, key, stored, hpath, houtcome, hresponse⟩ :=
    app.exists_of_status_operate .sealing r w henabled h
  obtain ⟨n, hvalue⟩ := RetryPolicy.outcome_run _ _ _ _ _ houtcome
  exact ⟨hlimit, path, key, stored, _, hpath, hvalue, hresponse⟩

/-- What the codec sealed is opened with the status 200. -/
theorem App.operate_opening_of_sealToBytes (hcodec : app.codec = ⟨kms.wrapper, options⟩)
    (henabled : app.encryptionEnabled) {key : Key.Handle} {path : String} {plaintext : Bytes}
    {w : World κ} {r : Request} (hpath : app.pathAndKey r = .ok (path, key))
    (hlimit : r.body.length ≤ app.bodyLimit .opening)
    (hseal : (app.codec.sealToBytes key path plaintext w).1.value = .ok r.body) (w' : World κ) :
    (app.operate .opening r w').1.response = .octets plaintext := by
  have hnow : (app.attempt .opening key path r.body w').1 = .now (.ok plaintext) := by
    rw [hcodec] at hseal
    have hvalue := Envelope.openBytes_of_sealToBytes kms options key path plaintext r.body hseal w'
    have hmillis := Envelope.millis_openBytes kms options key path r.body w'
    rw [attempt, hcodec]
    exact congrArg₂ Kms.Timed.mk hvalue hmillis
  have hrun := RetryPolicy.run_of_now (app.attempt .opening key path r.body) w' app.retry
    (some requestTimeout) Operation.opening.name rfl hnow rfl
  rw [app.operate_of_pathAndKey .opening r w' hlimit henabled hpath, hrun]
  dsimp only
  rw [respond_of_ok]
  rfl

/-- **Sealed objects stay openable.** Let a request of a run, posted to seal with some value of the
path header, be answered with the status 200. Then every request of the run, after it or even before
it, that is posted to open the answer with the same value of the path header is answered with the
status 200 and the body that was sealed. The answer is 92 bytes longer than that body and never
beyond the limit of opening. Both answers come with the MD5 digest of their own body in base64. -/
theorem serve_open_of_serve_seal (hcodec : app.codec = ⟨kms.wrapper, options⟩)
    (henabled : app.encryptionEnabled) (rs : List Request) (w : World κ) {i j : Nat}
    {sealing opening : Request} {value : Bytes} {sealed : Outcome}
    (hi : rs[i]? = some sealing) (hsealing : sealing.Posts .sealing app.pathHeader value)
    (hsealed : (app.serve rs w).1[i]? = some sealed) (hstatus : sealed.response.status = 200)
    (hj : rs[j]? = some opening) (hopening : opening.Posts .opening app.pathHeader value)
    (hbody : opening.body = sealed.response.body) :
    ∃ opened, (app.serve rs w).1[j]? = some opened ∧
      opened.response.status = 200 ∧ opened.response.body = sealing.body ∧
      sealed.response.body.length = sealing.body.length + 92 ∧
      sealed.response.body.length ≤ app.maxEnvelopeBytes.toNat ∧
      sealed.response.contentMd5 =
        some (Base64.encodeString (Digest.md5 sealed.response.body)) ∧
      opened.response.contentMd5 =
        some (Base64.encodeString (Digest.md5 opened.response.body)) := by
  obtain ⟨hmethod, hroute, hvalue⟩ := hsealing
  obtain ⟨hmethod', hroute', hvalue'⟩ := hopening
  -- The codec has sealed the body of the first request.
  rw [app.serve_getElem?_of_getElem? hi w, app.handle_of_path .sealing sealing hmethod hroute]
    at hsealed
  obtain rfl := Option.some.inj hsealed
  obtain ⟨hlimit, path, key, stored, w', hpath, hseal, hresponse⟩ :=
    app.exists_of_status_seal henabled hstatus
  rw [hresponse] at hbody ⊢
  -- So the body of the second one is of a known length, and within the limit.
  have hcodecSeal := hseal
  rw [hcodec] at hcodecSeal
  have hmade := (Envelope.sealToBytes_eq_ok_iff_sealedWith ..).mp hcodecSeal
  have hlen : stored.length = sealing.body.length + 92 := hmade.length_stored
  have hfits : stored.length ≤ app.maxEnvelopeBytes.toNat := by
    rw [hlen]
    exact app.length_le_maxEnvelopeBytes hlimit hmade.length_le
  -- It has the same path and key, and opens.
  have hpath' : app.pathAndKey opening = .ok (path, key) := by
    rw [← hpath]
    exact app.pathAndKey_congr (hvalue'.trans hvalue.symm)
  have hbody' : opening.body = stored := hbody
  have hlimit' : opening.body.length ≤ app.bodyLimit .opening := by
    rw [hbody']
    exact hfits
  have hopens := app.operate_opening_of_sealToBytes kms options hcodec henabled hpath' hlimit'
    (hbody' ▸ hseal) (app.serve (rs.take j) w).2
  rw [app.serve_getElem?_of_getElem? hj w, app.handle_of_path .opening opening hmethod' hroute']
  refine ⟨_, rfl, ?_⟩
  rw [hopens]
  exact ⟨rfl, rfl, hlen, hfits, Response.contentMd5_octets stored,
    Response.contentMd5_octets sealing.body⟩

end

/-- An object that is sealed and opened again, with a look at the health between. -/
theorem serve_seal_health_open :
    let key : Key.Handle := ⟨.inProcess, "test"⟩
    let kms := Kms.Local.empty.register key Key.Data.erased
    let options : Envelope.Options := ⟨.aes256Gcm, .ofSeconds 10⟩
    let app : App Unit :=
      ⟨⟨kms.wrapper, options⟩, .always key, "x-object-path", .standard, 1024, true⟩
    let w : World Unit := ⟨.cyclic #[], ()⟩
    let headers := [("X-Object-Path", Bytes.ofString "gs://bucket/run")]
    let sealing : Request := ⟨"POST", "/seal", headers, Bytes.ofString "weights"⟩
    let sealed := (app.handle sealing w).1
    let opening : Request := ⟨"POST", "/open", headers, sealed.response.body⟩
    let rs := [sealing, ⟨"GET", "/health", [], []⟩, opening]
    sealed.response.status = 200 ∧
      ∃ opened, (app.serve rs w).1[2]? = some opened ∧
        opened.response.status = 200 ∧ opened.response.body = sealing.body ∧
        sealed.response.body.length = sealing.body.length + 92 ∧
        sealed.response.body.length ≤ app.maxEnvelopeBytes.toNat ∧
        sealed.response.contentMd5 =
          some (Base64.encodeString (Digest.md5 sealed.response.body)) ∧
        opened.response.contentMd5 =
          some (Base64.encodeString (Digest.md5 opened.response.body)) ∧
        opened.response.contentMd5 = some "Y/Tx6bclNw9FlyBXXNX5Uw==" := by
  intro key kms options app w headers sealing sealed opening rs
  have hstatus : sealed.response.status = 200 := by decide +kernel
  have hsealing : sealing.Posts .sealing app.pathHeader (Bytes.ofString "gs://bucket/run") :=
    ⟨rfl, by decide +kernel, by decide +kernel⟩
  have hopening : opening.Posts .opening app.pathHeader (Bytes.ofString "gs://bucket/run") :=
    ⟨rfl, by decide +kernel, by decide +kernel⟩
  have hi : rs[0]? = some sealing := rfl
  have hj : rs[2]? = some opening := rfl
  obtain ⟨opened, hopened, hok, hsame, hlength, hlimit, hdigest, hdigest'⟩ :=
    serve_open_of_serve_seal kms options app rfl rfl rs w hi hsealing
      (app.serve_getElem? rs w 0) hstatus hj hopening rfl
  have hmd5 : Base64.encodeString (Digest.md5 sealing.body) = "Y/Tx6bclNw9FlyBXXNX5Uw==" := by
    decide +kernel
  refine ⟨hstatus, opened, hopened, hok, hsame, hlength, hlimit, hdigest, hdigest', ?_⟩
  rw [hdigest', hsame, hmd5]

end PathSeal.Service
