import OciCompose.Proofs.Projection
import OciCompose.Proofs.Registry.Remote
import OciCompose.Proofs.Url

/-
  What a client of remote registries sends, and where.
  `logged` writes down each request with the operation that it is made for; `run_logged` says that a
  client does the same with the log as without. A request leads to the site of its repository whatever
  stands behind the repository in its URL (`siteOf_of_parse`), and carries a token only if it was
  authorized with it (`Draft.mem_of_carries`). The scope of a request names the path of the repository
  and whether the request writes, and no more than that (`scope_inj`).
-/

namespace OciCompose

namespace RemoteRegistry

open Http

variable {τ : Type}

/-! ## Operations and their exchanges -/

/-- An operation of a client. -/
inductive Action where
  | getManifest (r : Reference)
  | getBlob (repo : Reference) (d : Digest)
  | blobExists (repo : Reference) (d : Digest)
  | putBlob (repo : Reference) (d : Digest) (data : Bytes)
  | mountBlob (source target : Reference) (d : Digest)
  | putManifest (target : Reference) (raw : RawManifest)

namespace Action

/-- The repository that an operation addresses. -/
def repository : Action → Reference
  | getManifest r => r
  | getBlob repo _ | blobExists repo _ | putBlob repo _ _ => repo
  | mountBlob _ target _ | putManifest target _ => target

/-- An operation without its result. -/
def perform (c : RemoteRegistry τ) : Action → Call (State τ) Unit
  | getManifest r => do let _ ← c.getManifest r
  | getBlob repo d => do let _ ← c.getBlob repo d
  | blobExists repo d => do let _ ← c.blobExists repo d
  | putBlob repo d data => c.putBlob repo d data
  | mountBlob source target d => do let _ ← c.mountBlob source target d
  | putManifest target raw => c.putManifest target raw

end Action

/-- A request, the operation that it was made for, and the response if there was one. -/
structure Exchange where
  action : Action
  request : Request
  response : Option Response

/-- The client for an operation, with a log of exchanges beside the state of its transport. -/
def logged (c : RemoteRegistry τ) (a : Action) : RemoteRegistry (τ × List Exchange) where
  transport := ⟨fun r s =>
    let (response, t) := c.transport.exchange r s.1
    (response, t, s.2 ++ [⟨a, r, response⟩])⟩
  credentials := c.credentials
  insecure := c.insecure

/-- A state without the log. -/
def State.unlogged {ρ : Type} (s : State (τ × ρ)) : State τ where
  tokens := s.tokens
  connection := s.connection.1

/-- The state after some operations. -/
def run (c : RemoteRegistry τ) (actions : List Action) (s : State (τ × List Exchange)) :
    State (τ × List Exchange) :=
  actions.foldl (fun s a => (a.perform (c.logged a) s).2) s

/-- The exchanges of some operations of a client that has no tokens yet. -/
def log (c : RemoteRegistry τ) (actions : List Action) (connection : τ) : List Exchange :=
  (c.run actions { connection := (connection, []) }).connection.2

/-! ## The log changes nothing -/

section

variable (c : RemoteRegistry τ) (a : Action)

theorem transport_logged (r : Request) (s : τ × List Exchange) :
    (c.logged a).transport.exchange r s =
      ((c.transport.exchange r s.1).1, (c.transport.exchange r s.1).2,
        s.2 ++ [⟨a, r, (c.transport.exchange r s.1).1⟩]) := rfl

theorem exchange_logged (d : Draft) (auth : List (String × String)) :
    Call.Projects State.unlogged (exchange (c.logged a) d auth) (exchange c d auth) := by
  intro s
  unfold exchange
  rcases d.request auth with f | r
  · rfl
  · have hconnection : s.unlogged.connection = s.connection.1 := rfl
    dsimp only
    rw [c.transport_logged, hconnection]
    rcases c.transport.exchange r s.connection.1 with ⟨_ | response, t⟩ <;> rfl

theorem send_logged (sc : String) (d : Draft) :
    Call.Projects State.unlogged ((c.logged a).send sc d) (c.send sc d) := by
  unfold send
  refine .bind (fun _ => rfl) fun auth => .bind (c.exchange_logged a d auth) fun response => ?_
  rcases challengeOf response with _ | challenge
  · exact .pure _
  refine .bind ?_ fun token => .bind (fun _ => rfl) fun _ => c.exchange_logged a d _
  unfold fetchToken
  exact .bind (.ofExcept _) fun url => .bind (c.exchange_logged a _ _) fun _ => .ofExcept _

/-- A client does with a log what it does without. -/
theorem registry_logged : (c.logged a).registry.Projects State.unlogged c.registry where
  getManifest r := .bind (c.send_logged a _ _) fun _ => .ofExcept _
  getBlob repo d := .bind (c.send_logged a _ _) fun _ => .ofExcept _
  blobExists repo d := .bind (c.send_logged a _ _) fun _ => .pure _
  putBlob repo d data := by
    refine .bind (.bind (c.send_logged a _ _) fun _ => .pure _) fun there => .ite (.pure ()) ?_
    refine .bind (c.send_logged a _ _) fun opened => .bind (.ofExcept _) fun url => ?_
    exact .bind (c.send_logged a _ _) fun response => .ite (.throw _) (.pure ())
  mountBlob source target d := by
    refine .ite (.pure false) (.bind (.ofExcept _) fun url => ?_)
    exact .bind (c.send_logged a _ _) fun _ => .pure _
  putManifest target raw := by
    exact .bind (c.send_logged a _ _) fun response => .ite (.throw _) (.pure ())

theorem perform_logged :
    Call.Projects State.unlogged (a.perform (c.logged a)) (a.perform c) := by
  have h := c.registry_logged a
  cases a with
  | getManifest r => exact .bind (h.getManifest r) fun _ => .pure ()
  | getBlob repo d => exact .bind (h.getBlob repo d) fun _ => .pure ()
  | blobExists repo d => exact .bind (h.blobExists repo d) fun _ => .pure ()
  | putBlob repo d data => exact h.putBlob repo d data
  | mountBlob source target d => exact .bind (h.mountBlob source target d) fun _ => .pure ()
  | putManifest target raw => exact h.putManifest target raw

/-- So the log is that of the client itself. -/
theorem run_logged (actions : List Action) (s : State (τ × List Exchange)) :
    (c.run actions s).unlogged = actions.foldl (fun s a => (a.perform c s).2) s.unlogged := by
  induction actions generalizing s with
  | nil => rfl
  | cons a rest ih =>
    have hstep : a.perform c s.unlogged = _ := c.perform_logged a s
    rw [List.foldl_cons, hstep, ← ih]
    rfl

end

/-! ## Scopes and sites -/

/-- Methods of requests that write, which need a scope for that. -/
def writes : Method → Bool
  | .post | .put => true
  | .get | .head => false

/-- What a request needs a token for. -/
def Exchange.scope (e : Exchange) : String :=
  RemoteRegistry.scope e.action.repository (writes e.request.method)

def Exchange.site (e : Exchange) : Host × Nat := e.request.url.site

def Exchange.Carries (e : Exchange) (token : String) : Prop :=
  Credentials.bearerHeader token ∈ e.request.headers

/-- A blob that goes where the registry said it should. -/
def Exchange.IsUpload (e : Exchange) : Prop :=
  e.request.method = .put ∧ ∃ repo d data, e.action = .putBlob repo d data

/-- Where the registry of a repository is, if its name can stand in a URL. -/
def siteOf (c : RemoteRegistry τ) (repo : Reference) : Option (Host × Nat) :=
  (Url.parse (c.repositoryUrl repo).toList).toOption.map Url.site

/-- A request that goes to the registry of the repository that it is about, or an upload. -/
def Directed (c : RemoteRegistry τ) (e : Exchange) : Prop :=
  e.IsUpload ∨ c.siteOf e.action.repository = some e.site

/-- A scope names the path of a repository and says whether it is for writing, and nothing else. -/
theorem scope_inj {a b : Reference} {push push' : Bool} (h : scope a push = scope b push') :
    a.repository = b.repository ∧ push = push' := by
  have hlists := congrArg String.toList h
  unfold scope at hlists
  rw [String.toList_append, String.toList_append, String.toList_append, String.toList_append,
    String.toList_append, String.toList_append] at hlists
  have hlast (path : List Char) (push : Bool) :
      (path ++ (if push then "pull,push" else "pull").toList).getLast? =
        some (if push then 'h' else 'l') := by
    rw [List.getLast?_append]
    cases push <;> rfl
  have hpush : push = push' := by
    have hletter := (hlast _ push).symm.trans ((congrArg List.getLast? hlists).trans (hlast _ push'))
    revert hletter
    cases push <;> cases push' <;> decide
  subst hpush
  have hpath := List.append_cancel_right (List.append_cancel_right hlists)
  exact ⟨String.toList_inj.1 (List.append_cancel_left hpath), rfl⟩

/-- What stands behind the path of a repository does not say where a request goes. -/
theorem siteOf_of_parse {c : RemoteRegistry τ} {repo : Reference} {suffix : String} {u : Url}
    (h : Url.parse (c.repositoryUrl repo ++ suffix).toList = .ok u) :
    c.siteOf repo = some u.site := by
  have htext : ∃ scheme : Scheme, ∀ rest : String, (c.repositoryUrl repo ++ rest).toList =
      scheme.name.toList ++ "://".toList ++ ((hostOf repo.registry).toList ++ "/v2".toList) ++
        '/' :: (repo.repository.toList ++ rest.toList) := by
    refine ⟨if c.insecure then .http else .https, fun rest => ?_⟩
    unfold repositoryUrl
    simp only [String.toList_append, List.append_assoc]
    cases c.insecure <;> rfl
  obtain ⟨scheme, htext⟩ := htext
  have hsolid : ∃ x ∈ (hostOf repo.registry).toList ++ "/v2".toList,
      Url.isSlash x = false ∧ Url.IsSolid x :=
    ⟨'v', List.mem_append_right _ (by decide), by decide, by unfold Url.IsSolid; decide⟩
  have hsite := Url.site_parse scheme hsolid repo.repository.toList
    (repo.repository.toList ++ suffix.toList)
  have hwhole := htext ""
  rw [String.append_empty, String.toList_empty, List.append_nil] at hwhole
  rw [← hwhole, ← htext, h] at hsite
  unfold siteOf
  rcases hparse : Url.parse (c.repositoryUrl repo).toList with f | u'
  · rw [hparse] at hsite
    cases hsite
  · rw [hparse] at hsite
    exact congrArg some (Except.ok.inj hsite)

/-! ## Requests -/

theorem Draft.request_eq_ok {d : Draft} {auth : List (String × String)} {r : Request}
    (h : d.request auth = .ok r) :
    ∃ url, d.url = .ok url ∧ r.method = d.method ∧ r.url = { url with userInfo := none } ∧
      r.headers = ("user-agent", userAgent) ::
        ((url.userInfo.map Credentials.basicHeader).toList ++ d.headers ++ auth) := by
  unfold request at h
  rcases hurl : d.url with f | url
  · rw [hurl] at h
    cases h
  · rw [hurl] at h
    dsimp only at h
    split at h
    · cases h
    split at h
    · cases Except.ok.inj h
      exact ⟨url, rfl, rfl, rfl, rfl⟩
    · cases h

theorem basicHeader_ne_bearerHeader (userPassword : Bytes) (token : String) :
    Credentials.bearerHeader token ≠ Credentials.basicHeader userPassword := by
  intro h
  have htexts := congrArg (fun x => x.2.toList) h
  dsimp only [Credentials.bearerHeader, Credentials.basicHeader] at htexts
  rw [String.toList_append, String.toList_append] at htexts
  have hsecond := (List.cons.inj (List.cons.inj htexts).2).1
  exact absurd hsecond (by decide)

theorem bearerHeader_inj {a b : String}
    (h : Credentials.bearerHeader a = Credentials.bearerHeader b) : a = b := by
  have htexts := congrArg (fun x => x.2.toList) h
  dsimp only [Credentials.bearerHeader] at htexts
  rw [String.toList_append, String.toList_append] at htexts
  exact String.toList_inj.1 (List.append_cancel_left htexts)

/-- A request carries the tokens among the headers for its authorization. -/
theorem Draft.mem_of_carries {d : Draft} (hd : ∀ h ∈ d.headers, h.1 ≠ "authorization")
    {auth : List (String × String)} {r : Request} (h : d.request auth = .ok r) {token : String}
    (hcarries : Credentials.bearerHeader token ∈ r.headers) :
    Credentials.bearerHeader token ∈ auth := by
  obtain ⟨url, -, -, -, hheaders⟩ := request_eq_ok h
  rw [hheaders, List.mem_cons, List.mem_append, List.mem_append] at hcarries
  rcases hcarries with hagent | (huser | hheader) | hauth
  · exact absurd (congrArg Prod.fst hagent) (show "authorization" ≠ "user-agent" by decide)
  · obtain ⟨userPassword, -, hbasic⟩ := Option.map_eq_some_iff.1 (Option.mem_toList.1 huser)
    exact (basicHeader_ne_bearerHeader userPassword token hbasic.symm).elim
  · exact (hd _ hheader rfl).elim
  · exact hauth

theorem plain_singleton {name : String} (h : name ≠ "authorization") (value : String) :
    ∀ x ∈ [(name, value)], x.1 ≠ "authorization" := by
  intro x hx
  rw [List.mem_singleton.1 hx]
  exact h

theorem accept_ne : "accept" ≠ "authorization" := by decide

theorem contentType_ne : "content-type" ≠ "authorization" := by decide

/-- A draft of an operation: it does not authorize itself, and it leads to the registry of the
    operation's repository unless it is an upload. -/
structure Draft.IsOf (c : RemoteRegistry τ) (a : Action) (push : Bool) (d : Draft) : Prop where
  access : writes d.method = push
  plain : ∀ h ∈ d.headers, h.1 ≠ "authorization"
  directed : (d.method = .put ∧ ∃ repo digest data, a = .putBlob repo digest data) ∨
    ∀ url, d.url = .ok url → c.siteOf a.repository = some url.site

theorem Draft.IsOf.scope_of_request {c : RemoteRegistry τ} {a : Action} {push : Bool} {d : Draft}
    (hd : d.IsOf c a push) {auth : List (String × String)} {r : Request} (h : d.request auth = .ok r)
    (response : Option Response) :
    (Exchange.mk a r response).scope = RemoteRegistry.scope a.repository push := by
  obtain ⟨-, -, hmethod, -, -⟩ := d.request_eq_ok h
  unfold Exchange.scope
  rw [hmethod, hd.access]

theorem Draft.IsOf.directed_of_request {c : RemoteRegistry τ} {a : Action} {push : Bool} {d : Draft}
    (hd : d.IsOf c a push) {auth : List (String × String)} {r : Request} (h : d.request auth = .ok r)
    (response : Option Response) : Directed c ⟨a, r, response⟩ := by
  obtain ⟨url, hurl, hmethod, hsent, -⟩ := request_eq_ok h
  rcases hd.directed with ⟨hput, hblob⟩ | hsite
  · exact .inl ⟨hmethod.trans hput, hblob⟩
  · refine .inr ((hsite url hurl).trans (congrArg some ?_))
    unfold Exchange.site
    rw [hsent]
    rfl

end RemoteRegistry

end OciCompose
