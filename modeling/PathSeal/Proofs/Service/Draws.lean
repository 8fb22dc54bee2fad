import Mathlib.Data.List.Nodup
import PathSeal.Proofs.Envelope.Draws
import PathSeal.Proofs.Retry
import PathSeal.Proofs.Service.Stages

/-!
# PathSeal.Proofs.Service.Draws

Which random bytes a run of the service reads, and what for. A run is any sequence of
works, which are attempts to seal or open and calls to the key service, and of
requests. A request does its attempts as works, one after another; if it does not
reach the codec it does none (`App.works`).

Works follow each other without a gap (`App.follows_works`) and each reads the bytes
from where it starts on. So no byte is read by two of them (`works_read_apart`).
-/

namespace PathSeal.Service

open Kms (World Timed Wrapper Reads Call)
open Envelope (Codec)

/-! ## Works -/

/-- An attempt to seal or open, or a call to the key service. -/
inductive Work where
  | sealing (options : Envelope.Options) (key : Key.Handle) (path : String) (plaintext : Bytes)
  | opening (options : Envelope.Options) (key : Key.Handle) (path : String) (stored : Bytes)
  | wrapping (key : Key.Handle) (dek : Bytes)
  | unwrapping (key : Key.Handle) (wrapped : Key.Wrapped)

namespace Work

/-- What a work comes to. -/
def Answer : Work → Type
  | sealing .. => Timed (Except Envelope.Error Bytes)
  | opening .. => Timed (Except Envelope.Error Bytes)
  | wrapping .. => Timed (Except Kms.Error Key.Wrapped)
  | unwrapping .. => Timed (Except Kms.Error Bytes)

/-- Does a work with a key service. -/
def run (wrapper : Wrapper κ) : (work : Work) → StateM (World κ) work.Answer
  | sealing options key path plaintext =>
    (Codec.mk wrapper options).sealToBytes key path plaintext
  | opening options key path stored => (Codec.mk wrapper options).openBytes key path stored
  | wrapping key dek => wrapper.wrap key dek
  | unwrapping key wrapped => wrapper.unwrap key wrapped

/-- How many random bytes a work reads, if the service reads some of its own for a wrapping. -/
def drawn (drawn : Key.Handle → Nat) : Work → Nat
  | sealing _ key path plaintext => Envelope.sealDrawn drawn key path plaintext
  | wrapping key _ => drawn key
  | opening .. => 0
  | unwrapping .. => 0

/-- A work reads as many bytes, and depends on no others. -/
theorem reads {wrapper : Wrapper κ} {drawn : Key.Handle → Nat} (h : wrapper.Draws drawn)
    (work : Work) : Reads (work.drawn drawn) (work.run wrapper) := by
  cases work with
  | sealing options key path plaintext =>
    exact @Codec.reads_sealToBytes _ ⟨wrapper, options⟩ key path plaintext drawn h
  | opening options key path stored =>
    exact @Codec.reads_openBytes _ ⟨wrapper, options⟩ key path drawn h stored
  | wrapping key dek => exact h.wrap key dek
  | unwrapping key wrapped => exact h.unwrap key wrapped

/-- The positions of the stream that a work reads. -/
def span (drawn : Key.Handle → Nat) (work : Work) (w : World κ) : List Nat :=
  List.range' w.entropy.position (work.drawn drawn)

end Work

/-! ## Works one after another -/

/-- Each work starts in the surroundings that the one before it leaves. -/
inductive Follows (wrapper : Wrapper κ) : World κ → List (Work × World κ) → World κ → Prop
  | nil (w) : Follows wrapper w [] w
  | cons (work w) (h : Follows wrapper (Work.run wrapper work w).2 works w') :
    Follows wrapper w ((work, w) :: works) w'

section

variable {wrapper : Wrapper κ} {works works' : List (Work × World κ)} {w w' w'' : World κ}

theorem Follows.append (h : Follows wrapper w works w') (h' : Follows wrapper w' works' w'') :
    Follows wrapper w (works ++ works') w'' := by
  induction h with
  | nil => exact h'
  | cons work w _ ih => exact .cons work w (ih h')

/-- The positions that some works read, in order. -/
def spans (drawn : Key.Handle → Nat) (works : List (Work × World κ)) : List Nat :=
  works.flatMap fun work => work.1.span drawn work.2

/-- Works that follow each other read each position from the first to the last one once. -/
theorem Follows.spans_eq {drawn : Key.Handle → Nat} (hdrawn : wrapper.Draws drawn)
    (h : Follows wrapper w works w') :
    spans drawn works = List.range' w.entropy.position (works.map (·.1.drawn drawn)).sum ∧
      w'.entropy = w.entropy.skip (works.map (·.1.drawn drawn)).sum := by
  induction h with
  | nil w => exact ⟨rfl, rfl⟩
  | cons work w _ ih =>
    obtain ⟨hspans, hend⟩ := ih
    have hnext := (work.reads hdrawn).entropy_eq w
    rw [hnext] at hspans hend
    rw [List.map_cons, List.sum_cons]
    constructor
    · rw [spans, List.flatMap_cons, ← spans, hspans]
      exact List.range'_append_1
    · rw [hend, Entropy.skip_skip]

/-- So no two of them read the same. -/
theorem Follows.pairwise_disjoint {drawn : Key.Handle → Nat} (hdrawn : wrapper.Draws drawn)
    (h : Follows wrapper w works w') :
    works.Pairwise fun a b => (a.1.span drawn a.2).Disjoint (b.1.span drawn b.2) := by
  have hnodup : (spans drawn works).Nodup := by
    rw [(h.spans_eq hdrawn).1]
    exact List.nodup_range'
  exact (List.nodup_flatMap.mp hnodup).2

/-- Works that follow each other read the same stream. -/
theorem Follows.stream_eq {drawn : Key.Handle → Nat} (hdrawn : wrapper.Draws drawn)
    (h : Follows wrapper w works w') {work : Work} {s : World κ} (hmem : (work, s) ∈ works) :
    s.entropy.stream = w.entropy.stream := by
  induction h with
  | nil w => exact absurd hmem List.not_mem_nil
  | cons first w _ ih =>
    rcases List.mem_cons.mp hmem with heq | hmem
    · rw [(Prod.mk.inj heq).2]
    · rw [ih hmem, (first.reads hdrawn).entropy_eq w]
      rfl

end

/-! ## Runs -/

/-- A step of a run: a work that is done on its own, or a request. -/
inductive Step where
  | work (work : Work)
  | request (r : Request)

namespace App

variable (app : App κ)

/-- What a request asks of the codec, if it gets there. -/
def codecCall (r : Request) : Option (Operation × String × Key.Handle) :=
  match Route.ofPath r.path with
  | .operation op =>
    if r.method = "POST" ∧ r.body.length ≤ app.bodyLimit op ∧ app.encryptionEnabled then
      match app.pathAndKey r with
      | .ok (path, key) => some (op, path, key)
      | .error _ => none
    else none
  | .health => none
  | .nothing => none

/-- The work that an attempt of a request is. -/
def attemptWork (op : Operation) (key : Key.Handle) (path : String) (body : Bytes) : Work :=
  match op with
  | .sealing => .sealing app.codec.options key path body
  | .opening => .opening app.codec.options key path body

/-- The works of a step, each with the surroundings that it starts in. -/
def stepWorks (w : World κ) : Step → List (Work × World κ)
  | .work work => [(work, w)]
  | .request r =>
    match app.codecCall r with
    | some (op, path, key) =>
      (RetryPolicy.starts (app.attempt op key path r.body) app.retry (some requestTimeout) op.name
        w).map fun s => (app.attemptWork op key path r.body, s)
    | none => []

/-- The surroundings after a step. -/
def afterStep (w : World κ) : Step → World κ
  | .work work => (work.run app.codec.wrapper w).2
  | .request r => (app.handle r w).2

/-- The works of a run. -/
def works : List Step → World κ → List (Work × World κ)
  | [], _ => []
  | step :: steps, w => app.stepWorks w step ++ works steps (app.afterStep w step)

/-- The surroundings after a run. -/
def after (steps : List Step) (w : World κ) : World κ :=
  steps.foldl app.afterStep w

variable {app}

/-- A request reaches the codec if it is posted to an operation and passes the stages before. -/
theorem codecCall_eq_some_iff (r : Request) (op : Operation) (path : String) (key : Key.Handle) :
    app.codecCall r = some (op, path, key) ↔
      r.method = "POST" ∧ r.path = op.path ∧ r.body.length ≤ app.bodyLimit op ∧
        app.encryptionEnabled ∧ app.pathAndKey r = .ok (path, key) := by
  have hpath : r.path = op.path ↔ Route.ofPath r.path = .operation op := by
    constructor
    · intro h
      rw [h, Route.ofPath_path]
    · exact Route.eq_path_of_ofPath
  rw [hpath, codecCall]
  cases Route.ofPath r.path with
  | health => simp
  | nothing => simp
  | operation found =>
    dsimp only
    split
    · next hreach =>
      cases app.pathAndKey r with
      | error e => simp
      | ok pathKey => grind
    · next hreach => grind

theorem handle_of_codecCall_none {r : Request} (h : app.codecCall r = none) (w : World κ) :
    (app.handle r w).2 = w := by
  by_contra hne
  obtain ⟨op, path, key, hreach⟩ := app.exists_of_handle_ne r w hne
  rw [(codecCall_eq_some_iff r op path key).mpr hreach] at h
  contradiction

/-- A request that reaches the codec changes the surroundings as its attempts do. -/
theorem handle_of_codecCall {r : Request} {op : Operation} {path : String} {key : Key.Handle}
    (h : app.codecCall r = some (op, path, key)) (w : World κ) :
    (app.handle r w).2 =
      (app.retry.run (some requestTimeout) op.name (app.attempt op key path r.body) w).2 := by
  obtain ⟨hmethod, hpath, hlimit, henabled, hkey⟩ := (codecCall_eq_some_iff r op path key).mp h
  rw [app.handle_of_path op r hmethod hpath,
    app.operate_of_pathAndKey op r w hlimit henabled hkey]

/-- Doing an operation again and again is doing its work again and again. -/
theorem follows_stateAfter (op : Operation) (key : Key.Handle) (path : String) (body : Bytes)
    (w : World κ) (n : Nat) :
    Follows app.codec.wrapper w
      ((List.range n).map fun i =>
        (app.attemptWork op key path body,
          RetryPolicy.stateAfter (app.attempt op key path body) w i))
      (RetryPolicy.stateAfter (app.attempt op key path body) w n) := by
  have hwork (s : World κ) : (app.attempt op key path body s).2 =
      ((app.attemptWork op key path body).run app.codec.wrapper s).2 := by
    cases op with
    | sealing => rfl
    | opening => rfl
  induction n with
  | zero => exact .nil w
  | succ n ih =>
    rw [List.range_succ, List.map_append, List.map_singleton]
    refine ih.append ?_
    rw [RetryPolicy.stateAfter, hwork]
    exact .cons _ _ (.nil _)

variable (app)

/-- The works of a step follow each other, from the surroundings before it to those after it. -/
theorem follows_stepWorks (step : Step) (w : World κ) :
    Follows app.codec.wrapper w (app.stepWorks w step) (app.afterStep w step) := by
  cases step with
  | work work => exact .cons work w (.nil _)
  | request r =>
    rw [stepWorks, afterStep]
    cases h : app.codecCall r with
    | none =>
      rw [handle_of_codecCall_none h]
      exact .nil w
    | some call =>
      obtain ⟨op, path, key⟩ := call
      obtain ⟨n, hstarts, hend⟩ := RetryPolicy.starts_eq (app.attempt op key path r.body)
        app.retry (some requestTimeout) op.name w
      dsimp only
      rw [handle_of_codecCall h, hend, hstarts, List.map_map]
      exact follows_stateAfter op key path r.body w n

/-- So do those of a run. -/
theorem follows_works (steps : List Step) (w : World κ) :
    Follows app.codec.wrapper w (app.works steps w) (app.after steps w) := by
  induction steps generalizing w with
  | nil => exact .nil w
  | cons step steps ih => exact (app.follows_stepWorks step w).append (ih _)

end App

/-! ## What is read -/

/-- What an attempt to seal does with a data key and a nonce: the service is asked for nothing but
to wrap this data key, and what is stored is encrypted under it with this nonce. -/
structure SealsWith (codec : Codec κ) (key : Key.Handle) (path : String) (plaintext : Bytes)
    (w : World κ) (dek : Key.Data) (nonce : Cipher.Nonce) : Prop where
  calls : (codec.recorded.sealToBytes key path plaintext ⟨w.entropy, (w.kms, [])⟩).2.kms.2 =
    if Envelope.Encryptable path plaintext then [.wrap key dek.val] else []
  stored : ∀ stored, (codec.sealToBytes key path plaintext w).1.value = .ok stored →
    ∃ box wrappedKey,
      Cipher.encrypt codec.options.algorithm dek.val nonce.val plaintext (Bytes.ofString path) =
        .ok box ∧
      stored = Envelope.encode (Envelope.assemble nonce box wrappedKey)

/-- An attempt to seal with a path takes the data key and the nonce from where it starts. -/
theorem sealsWith_drawn (codec : Codec κ) (key : Key.Handle) {path : String} (hpath : path ≠ "")
    (plaintext : Bytes) (w : World κ) :
    SealsWith codec key path plaintext w (Codec.drawnKey w) (Codec.drawnNonce w) := by
  constructor
  · rw [Codec.sealToBytes_recorded]
    simp [Codec.sealingCalls, hpath]
  · intro stored h
    exact codec.exists_box_of_sealToBytes key path plaintext h

/-- **No random byte serves two attempts.** In any run the works read the stream without a gap and
without an overlap. What each of them reads depends on what it is: a data key and a nonce for an
attempt to seal with a path, and then what the service reads, which is one more nonce if it is
inside the process and the handle is registered; otherwise nothing. A request that does not reach
the codec has no part in this. The data key of an attempt is the one that its service is asked to
wrap, and the one under which its object is encrypted. -/
theorem works_read_apart :
    (∀ kms : Kms.Local, (kms.wrapper : Wrapper κ).Draws kms.drawn) ∧
    Kms.Script.wrapper.Draws (fun _ => 0) ∧
    (∀ b : Kms.Backends σ τ, b.wrapper.Draws b.drawn) ∧
    ∀ (app : App κ) (drawn : Key.Handle → Nat), app.codec.wrapper.Draws drawn →
      (∀ r w, app.codecCall r = none → (app.handle r w).2 = w) ∧
      (∀ work : Work, Reads (work.drawn drawn) (work.run app.codec.wrapper)) ∧
      ∀ (steps : List Step) (w : World κ),
        Follows app.codec.wrapper w (app.works steps w) (app.after steps w) ∧
        (∃ total, spans drawn (app.works steps w) = List.range' w.entropy.position total ∧
          (app.after steps w).entropy = w.entropy.skip total) ∧
        (app.works steps w).Pairwise
          (fun a b => (a.1.span drawn a.2).Disjoint (b.1.span drawn b.2)) ∧
        ∀ options key path plaintext s,
          (.sealing options key path plaintext, s) ∈ app.works steps w → path ≠ "" →
          ∃ dek nonce, SealsWith ⟨app.codec.wrapper, options⟩ key path plaintext s dek nonce ∧
            dek.val =
              (List.range' s.entropy.position Cipher.keyLength).map w.entropy.stream ∧
            nonce.val =
              (List.range' (s.entropy.position + Cipher.keyLength) Cipher.nonceLength).map
                w.entropy.stream := by
  refine ⟨Kms.Local.draws, Kms.Script.draws, Kms.Backends.draws, ?_⟩
  intro app drawn hdrawn
  refine ⟨fun r w h => App.handle_of_codecCall_none h w, Work.reads hdrawn, ?_⟩
  intro steps w
  have hfollows := app.follows_works steps w
  refine ⟨hfollows, ⟨_, hfollows.spans_eq hdrawn⟩, hfollows.pairwise_disjoint hdrawn, ?_⟩
  intro options key path plaintext s hmem hpath
  have hstream := hfollows.stream_eq hdrawn hmem
  refine ⟨Codec.drawnKey s, Codec.drawnNonce s,
    sealsWith_drawn ⟨app.codec.wrapper, options⟩ key hpath plaintext s, ?_, ?_⟩
  · rw [← hstream]
    exact Entropy.peek_eq_map ..
  · rw [← hstream]
    exact Entropy.peek_eq_map ..

/-- Of a request that is tried twice, the second attempt reads on where the first one has ended. -/
theorem works_read_apart_retried :
    let app : App Kms.Script :=
      ⟨⟨Kms.Script.wrapper, .standard⟩, .always ⟨.gcp, "k"⟩, "x-object-path", .standard, 1024, true⟩
    let w : World Kms.Script :=
      ⟨.cyclic #[], [⟨0, .fail (.unavailable "busy")⟩, ⟨0, .echo⟩]⟩
    let r : Request := ⟨"POST", "/seal", [("X-Object-Path", Bytes.ofString "gs://bucket/run")],
      Bytes.ofString "weights"⟩
    (app.works [.request r] w).map (fun work => work.1.span (fun _ => 0) work.2) =
        [List.range' 0 44, List.range' 44 44] ∧
      (app.works [.request r] w).Pairwise
        (fun a b => (a.1.span (fun _ => 0) a.2).Disjoint (b.1.span (fun _ => 0) b.2)) := by
  intro app w r
  have hrun := (@works_read_apart Kms.Script Unit Unit).2.2.2 app (fun _ => 0) Kms.Script.draws
  exact ⟨by decide +kernel, (hrun.2.2 [.request r] w).2.2.1⟩

end PathSeal.Service
