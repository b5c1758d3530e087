import OciCompose.Registry.Remote
import OciCompose.Proofs.Outcome

/-
  What a client of remote registries takes from their answers.
  `getManifest_eq_ok_iff` and `getBlob_eq_ok_iff` say when a request gives a manifest or a blob: only
  for an answer that is a success and has the content that was asked for. `content_is_verified` is
  what callers rely on, whatever the registry answers and whatever tokens the client holds.
-/

namespace OciCompose

/-- A digest of content is one by SHA-256. -/
theorem Digest.algorithm_ofBytes (content : Bytes) : (ofBytes content).algorithm = "sha256" := rfl

/-- Content has no digest by another algorithm. -/
theorem Digest.ofBytes_ne {d : Digest} (h : d.algorithm ≠ "sha256") (content : Bytes) :
    ofBytes content ≠ d := by
  rintro rfl
  exact h (algorithm_ofBytes content)

/-- A call that goes on with a decision gives what is decided of its result. -/
theorem Call.bind_ofExcept_fst {σ α β : Type} (c : Call σ α) (f : α → Except Error β) (s : σ) :
    ((c >>= fun a => Call.ofExcept (f a)) s).1 = (c s).1.bind f := by
  rw [Call.bind_apply]
  rcases c s with ⟨e | a, s'⟩ <;> rfl

theorem Except.bind_eq_ok_iff {ε α β : Type} {x : Except ε α} {f : α → Except ε β} {b : β} :
    x.bind f = .ok b ↔ ∃ a, x = .ok a ∧ f a = .ok b := by
  cases x with
  | error e => simp [Except.bind]
  | ok a => simp [Except.bind]

theorem Except.toOption_eq_some_iff {ε α : Type} {x : Except ε α} {a : α} :
    x.toOption = some a ↔ x = .ok a := by
  cases x <;> simp [Except.toOption]

namespace RemoteRegistry

open Http

variable {τ : Type}

/-! ## Answers -/

/-- The answer to the request for a manifest, after a challenge if there is one. -/
def manifestAnswer (c : RemoteRegistry τ) (r : Reference) : Call (State τ) Response :=
  c.send (scope r false)
    { Draft.ofText .get (c.repositoryUrl r ++ "/manifests/" ++ r.lookupKey) with
      headers := [("accept", accepted)] }

/-- The answer to the request for a blob, after a challenge if there is one. -/
def blobAnswer (c : RemoteRegistry τ) (repo : Reference) (d : Digest) : Call (State τ) Response :=
  c.send (scope repo false) (.ofText .get (c.blobUrl repo d))

/-- An answer gives a manifest if it is a success, has the manifest's type and bytes, and these have
    the digest of the reference. -/
theorem manifestOf_eq_ok_iff {r : Reference} {response : Response} {raw : RawManifest} :
    manifestOf r response = .ok raw ↔
      response.isSuccess = true ∧ mediaTypeOf response = .ok raw.mediaType ∧
        response.body = raw.bytes ∧ ∀ d, r.digest = some d → raw.digest = d := by
  unfold manifestOf
  cases hs : response.isSuccess with
  | false => simp
  | true =>
    cases ht : mediaTypeOf response with
    | error e => simp
    | ok mediaType =>
      cases hd : r.digest with
      | none =>
        simp only [Bool.not_true, Bool.false_eq_true, if_false, Except.ok.injEq, true_and,
          reduceCtorEq, false_implies, implies_true, and_true]
        exact ⟨fun h => h ▸ ⟨rfl, rfl⟩, fun h => by cases raw; cases h.1; cases h.2; rfl⟩
      | some d =>
        simp only [Bool.not_true, Bool.false_eq_true, if_false, Except.ok.injEq, true_and,
          Option.some.injEq, forall_eq']
        split
        · next h =>
          rw [Except.ok.injEq]
          constructor
          · rintro rfl
            exact ⟨rfl, rfl, h⟩
          · rintro ⟨rfl, hbody, -⟩
            rw [hbody]
        · next h =>
          constructor
          · exact nofun
          · rintro ⟨rfl, hbody, hdigest⟩
            rw [hbody] at h
            exact (h hdigest).elim

/-- An answer gives a blob if it is a success with that content. -/
theorem blobOf_eq_ok_iff {d : Digest} {response : Response} {data : Bytes} :
    blobOf d response = .ok data ↔
      response.isSuccess = true ∧ response.body = data ∧ Digest.ofBytes data = d := by
  unfold blobOf
  cases hs : response.isSuccess with
  | false => simp
  | true =>
    simp only [Bool.not_true, Bool.false_eq_true, if_false, true_and]
    split
    · next h =>
      rw [Except.ok.injEq]
      exact ⟨fun hbody => ⟨hbody, hbody ▸ h⟩, And.left⟩
    · next h =>
      refine ⟨nofun, ?_⟩
      rintro ⟨rfl, hdigest⟩
      exact (h hdigest).elim

/-! ## Requests for content -/

theorem getManifest_eq_ok_iff (c : RemoteRegistry τ) (r : Reference) (s : State τ)
    (raw : RawManifest) :
    (c.getManifest r s).1 = .ok raw ↔
      ∃ response, (c.manifestAnswer r s).1 = .ok response ∧ response.isSuccess = true ∧
        mediaTypeOf response = .ok raw.mediaType ∧ response.body = raw.bytes ∧
        ∀ d, r.digest = some d → raw.digest = d := by
  have h : (c.getManifest r s).1 = (c.manifestAnswer r s).1.bind (manifestOf r) :=
    Call.bind_ofExcept_fst (c.manifestAnswer r) (manifestOf r) s
  simp only [h, Except.bind_eq_ok_iff, manifestOf_eq_ok_iff]

theorem getBlob_eq_ok_iff (c : RemoteRegistry τ) (repo : Reference) (d : Digest) (s : State τ)
    (data : Bytes) :
    (c.getBlob repo d s).1 = .ok data ↔
      ∃ response, (c.blobAnswer repo d s).1 = .ok response ∧ response.isSuccess = true ∧
        response.body = data ∧ Digest.ofBytes data = d := by
  have h : (c.getBlob repo d s).1 = (c.blobAnswer repo d s).1.bind (blobOf d) :=
    Call.bind_ofExcept_fst (c.blobAnswer repo d) (blobOf d) s
  simp only [h, Except.bind_eq_ok_iff, blobOf_eq_ok_iff]

/-- What a client gives for a digest is content of that digest, so for a digest of an algorithm other
    than SHA-256 it gives an error. Nothing is supposed of the registry, the tokens or the
    connection. -/
theorem content_is_verified (c : RemoteRegistry τ) (s : State τ) :
    (∀ r d raw, r.digest = some d → (c.getManifest r s).1 = .ok raw →
        raw.digest = d ∧ Digest.ofBytes raw.bytes = d) ∧
      (∀ repo d data, (c.getBlob repo d s).1 = .ok data → Digest.ofBytes data = d) ∧
      ∀ r d, d.algorithm ≠ "sha256" →
        (r.digest = some d → ∃ e, (c.getManifest r s).1 = .error e) ∧
          ∃ e, (c.getBlob r d s).1 = .error e := by
  have hmanifest (r : Reference) (d : Digest) (raw : RawManifest) (hd : r.digest = some d)
      (h : (c.getManifest r s).1 = .ok raw) : Digest.ofBytes raw.bytes = d := by
    obtain ⟨_, -, -, -, -, hdigest⟩ := (getManifest_eq_ok_iff c r s raw).1 h
    exact hdigest d hd
  have hblob (repo : Reference) (d : Digest) (data : Bytes)
      (h : (c.getBlob repo d s).1 = .ok data) : Digest.ofBytes data = d := by
    obtain ⟨_, -, -, -, hdigest⟩ := (getBlob_eq_ok_iff c repo d s data).1 h
    exact hdigest
  refine ⟨fun r d raw hd h => ⟨hmanifest r d raw hd h, hmanifest r d raw hd h⟩, hblob, ?_⟩
  intro r d ha
  refine ⟨fun hd => ?_, ?_⟩
  · cases h : (c.getManifest r s).1 with
    | error e => exact ⟨e, rfl⟩
    | ok raw => exact (Digest.ofBytes_ne ha raw.bytes (hmanifest r d raw hd h)).elim
  · cases h : (c.getBlob r d s).1 with
    | error e => exact ⟨e, rfl⟩
    | ok data => exact (Digest.ofBytes_ne ha data (hblob r d data h)).elim

/-! ## A registry that asks for a token -/

namespace Challenged

def repo : Reference where
  written := "[::1]/c"
  name := "[::1]/c"
  registry := "[::1]"
  repository := "c"
  tag := none
  digest := none

def client : RemoteRegistry Script := { transport := .scripted, insecure := true }

def content : Bytes := Utf8.encode "\x7b\x7d"

def challenge : Response where
  status := 401
  headers := [("WWW-Authenticate", "Bearer realm=\"http://[::3]/t\"")]

def granted : Response where
  status := 200
  body := Utf8.encode "\x7b\"token\":\"t\"\x7d"

def answer : Response where
  status := 200
  headers := [("Content-Type", "application/vnd.x")]
  body := content

/-- A registry that asks for a token, a server that grants it, and the registry that answers. -/
def start : State Script where
  connection := { responses := [challenge, granted, answer] }

def pinned : Reference := repo.withDigest (Digest.ofBytes content)

/-- A digest by no algorithm that a client knows. -/
def otherDigest : Digest where
  algorithm := "x"
  hex := "0"
  wellFormed :=
    { algorithm_ne_nil := by decide
      colon_not_mem := by decide
      hex_ne_nil := by decide
      isLower := List.forall_mem_singleton.2 rfl
      length_sha256 := fun h => absurd h (by decide) }

end Challenged

set_option maxRecDepth 100000 in
open Challenged in
/-- The manifest and the blob that a registry gives for a token are those that were asked for. -/
theorem content_is_verified_for_token :
    (∃ raw, (client.getManifest pinned start).1 = .ok raw ∧
        Digest.ofBytes raw.bytes = Digest.ofBytes content) ∧
      (∃ data, (client.getBlob repo (Digest.ofBytes content) start).1 = .ok data ∧
        Digest.ofBytes data = Digest.ofBytes content) ∧
      ∃ e, (client.getBlob repo otherDigest start).1 = .error e := by
  have hmanifest : (client.getManifest pinned start).1 = .ok ⟨"application/vnd.x", content⟩ :=
    Except.toOption_eq_some_iff.1 (by decide +kernel)
  have hblob : (client.getBlob repo (Digest.ofBytes content) start).1 = .ok content :=
    Except.toOption_eq_some_iff.1 (by decide +kernel)
  refine ⟨⟨_, hmanifest, ?_⟩, ⟨_, hblob, ?_⟩, ?_⟩
  · exact ((content_is_verified client start).1 pinned _ _ rfl hmanifest).2
  · exact (content_is_verified client start).2.1 repo _ _ hblob
  · exact ((content_is_verified client start).2.2 repo otherDigest (by decide)).2

end RemoteRegistry

end OciCompose
