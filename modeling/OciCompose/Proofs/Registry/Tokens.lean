import OciCompose.Proofs.Registry.Exchange

/-
  Where a client sends the tokens that it was granted.
  A token is kept by its scope, which names the path of a repository and not its registry. So what a
  client sends was granted for the same scope before (`Justified`, kept by each operation:
  `trails_perform`), but maybe by another registry. `tokens_of_run` says what there is to rely on, and
  when tokens stay at the site that asked for them: if no path is used at two sites, and uploads are
  not sent elsewhere.
-/

namespace OciCompose

namespace RemoteRegistry

open Http

variable {τ : Type}

/-! ## Tokens that were granted -/

/-- A challenge in a log was met: the request behind it asked as the challenge says, and was answered
    with the token. -/
def Granted (log : List Exchange) (challenged : Exchange) (token : String) : Prop :=
  ∃ before asked after challenge url, log = before ++ challenged :: asked :: after ∧
    challenged.response.bind challengeOf = some challenge ∧
    tokenUrl challenge challenged.scope = .ok url ∧
    asked.request.url = { url with userInfo := none } ∧
    asked.response.map tokenOf = some (.ok token)

theorem Granted.append {log : List Exchange} {challenged : Exchange} {token : String}
    (h : Granted log challenged token) (more : List Exchange) :
    Granted (log ++ more) challenged token := by
  obtain ⟨before, asked, after, challenge, url, rfl, hgranted⟩ := h
  exact ⟨before, asked, after ++ more, challenge, url, by simp, hgranted⟩

theorem Granted.mem {log : List Exchange} {challenged : Exchange} {token : String}
    (h : Granted log challenged token) : challenged ∈ log := by
  obtain ⟨before, asked, after, _, _, rfl, -⟩ := h
  exact List.mem_append_right _ List.mem_cons_self

/-- A token was granted for a scope, by a challenge to a request that went where it belongs. -/
def GrantedFor (c : RemoteRegistry τ) (log : List Exchange) (scope token : String) : Prop :=
  ∃ challenged, Granted log challenged token ∧ challenged.scope = scope ∧ Directed c challenged

theorem GrantedFor.append {c : RemoteRegistry τ} {log : List Exchange} {scope token : String}
    (h : GrantedFor c log scope token) (more : List Exchange) :
    GrantedFor c (log ++ more) scope token := by
  obtain ⟨challenged, hgranted, hscope, hdirected⟩ := h
  exact ⟨challenged, hgranted.append more, hscope, hdirected⟩

/-- After a log, an exchange may have the tokens that it carries: they are configured, or granted for
    its scope. -/
def Entitled (c : RemoteRegistry τ) (log : List Exchange) (e : Exchange) : Prop :=
  ∀ token, e.Carries token →
    c.credentials = .bearer token ∨ Directed c e ∧ GrantedFor c log e.scope token

/-- A log in which each exchange may have the tokens that it carries. -/
abbrev Justified (c : RemoteRegistry τ) : List Exchange → Prop := EachAfter (Entitled c)

/-- What a client may be at after some of its operations. The tokens that it keeps were granted for
    their scopes. -/
structure Trail (c : RemoteRegistry τ) (actions : List Action) (s : State (τ × List Exchange)) :
    Prop where
  justified : Justified c s.connection.2
  kept : ∀ scope token, s.tokens.get? scope = some token →
    GrantedFor c s.connection.2 scope token
  performed : ∀ e ∈ s.connection.2, e.action ∈ actions

section

variable {c : RemoteRegistry τ} {actions : List Action} {a : Action}
  {s : State (τ × List Exchange)} {push : Bool}

theorem Trail.snoc (h : Trail c actions s) {e : Exchange} (ha : e.action ∈ actions)
    (he : Entitled c s.connection.2 e) (t : τ) :
    Trail c actions { s with connection := (t, s.connection.2 ++ [e]) } where
  justified := h.justified.snoc he
  kept scope token hkept := (h.kept scope token hkept).append [e]
  performed := by
    intro x hx
    rcases List.mem_append.1 hx with hx | hx
    · exact h.performed x hx
    · rw [List.mem_singleton.1 hx]
      exact ha

theorem Trail.keep (h : Trail c actions s) {scope token : String}
    (hgranted : GrantedFor c s.connection.2 scope token) :
    Trail c actions { s with tokens := s.tokens.insert scope token } where
  justified := h.justified
  kept := by
    intro scope' token' hkept
    dsimp only at hkept ⊢
    rw [Assoc.get?_insert] at hkept
    split at hkept
    · next heq =>
      rw [heq, ← Option.some.inj hkept]
      exact hgranted
    · exact h.kept scope' token' hkept
  performed := h.performed

/-! ## What a request does -/

theorem trail_of_exchange (h : Trail c actions s) (ha : a ∈ actions) {d : Draft}
    {auth : List (String × String)}
    (he : ∀ r response, d.request auth = .ok r → Entitled c s.connection.2 ⟨a, r, response⟩) :
    (exchange (c.logged a) d auth).Ends s
      (fun response s' => Trail c actions s' ∧ ∃ r, d.request auth = .ok r ∧
        s'.connection.2 = s.connection.2 ++ [⟨a, r, some response⟩])
      fun _ s' => Trail c actions s' := by
  unfold Call.Ends exchange
  rcases hrequest : d.request auth with f | r
  · exact h
  · dsimp only
    rw [c.transport_logged]
    rcases c.transport.exchange r s.connection.1 with ⟨_ | response, t⟩
    · exact h.snoc (e := ⟨a, r, none⟩) ha (he r none hrequest) t
    · exact ⟨h.snoc (e := ⟨a, r, some response⟩) ha (he r (some response) hrequest) t, r, rfl, rfl⟩

theorem entitled_of_request {d : Draft} (hd : d.IsOf c a push) {log : List Exchange}
    {auth : List (String × String)}
    (hauth : ∀ token, Credentials.bearerHeader token ∈ auth → c.credentials = .bearer token ∨
      GrantedFor c log (scope a.repository push) token)
    (r : Request) (response : Option Response) (hr : d.request auth = .ok r) :
    Entitled c log ⟨a, r, response⟩ := by
  intro token hcarries
  rw [hd.scope_of_request hr response]
  have hmem := d.mem_of_carries hd.plain hr hcarries
  exact (hauth token hmem).imp_right fun hgranted =>
    ⟨hd.directed_of_request hr response, hgranted⟩

/-- What a client sends of itself: a token that it keeps for the scope, or what is configured. -/
theorem authorization_ends (sc : String) :
    ((c.logged a).authorization sc).Ends s
      (fun auth s' => s' = s ∧ ∀ token, Credentials.bearerHeader token ∈ auth →
        c.credentials = .bearer token ∨ s.tokens.get? sc = some token)
      fun _ _ => False := by
  refine ⟨rfl, fun token hmem => ?_⟩
  have hcredentials : (c.logged a).credentials = c.credentials := rfl
  rcases hkept : s.tokens.get? sc with _ | kept
  · rw [hkept, hcredentials] at hmem
    refine .inl ?_
    rcases hconfigured : c.credentials with _ | ⟨user, password⟩ | configured <;>
      rw [hconfigured] at hmem
    · cases hmem
    · exact (basicHeader_ne_bearerHeader _ token (List.mem_singleton.1 hmem)).elim
    · rw [bearerHeader_inj (List.mem_singleton.1 hmem)]
  · rw [hkept] at hmem
    exact .inr (congrArg some (bearerHeader_inj (List.mem_singleton.1 hmem)).symm)

/-- A token is asked for without any token. -/
theorem not_mem_tokenCredentials (token : String) :
    Credentials.bearerHeader token ∉ c.tokenCredentials := by
  intro hmem
  unfold tokenCredentials at hmem
  rcases hconfigured : c.credentials with _ | ⟨user, password⟩ | configured <;>
    rw [hconfigured] at hmem
  · cases hmem
  · exact basicHeader_ne_bearerHeader _ token (List.mem_singleton.1 hmem)
  · cases hmem

/-- The challenge of the last exchange is met. -/
theorem trail_of_fetchToken (h : Trail c actions s) (ha : a ∈ actions) {log : List Exchange}
    {e : Exchange} (hlog : s.connection.2 = log ++ [e]) {challenge : SortedMap String}
    (hchallenge : e.response.bind challengeOf = some challenge) :
    ((c.logged a).fetchToken challenge e.scope).Ends s
      (fun token s' => Trail c actions s' ∧ Granted s'.connection.2 e token)
      fun _ s' => Trail c actions s' := by
  unfold fetchToken
  refine Call.Ends.bind (Q := fun url s' => s' = s ∧ tokenUrl challenge e.scope = .ok url)
    (Call.Ends.ofExcept (fun _ hurl => ⟨rfl, hurl⟩) fun _ _ => h) ?_
  rintro url s1 ⟨rfl, hurl⟩
  refine Call.Ends.bind (trail_of_exchange h ha ?_) ?_
  · intro r response hr token hcarries
    have hmem := Draft.mem_of_carries (List.forall_mem_nil _) hr hcarries
    exact (not_mem_tokenCredentials token hmem).elim
  rintro response s2 ⟨h2, r, hr, hlog2⟩
  refine Call.Ends.ofExcept (fun token htoken => ⟨h2, ?_⟩) fun _ _ => h2
  obtain ⟨sent, hsent, -, hasked, -⟩ := Draft.request_eq_ok hr
  cases Except.ok.inj hsent
  refine ⟨log, ⟨a, r, some response⟩, [], challenge, url, ?_, hchallenge, hurl, hasked, ?_⟩
  · rw [hlog2, hlog, List.append_assoc]
    rfl
  · exact congrArg some htoken

/-- A request in a scope keeps to it, whether or not it is challenged. -/
theorem trail_of_send (h : Trail c actions s) (ha : a ∈ actions) {d : Draft}
    (hd : d.IsOf c a push) :
    ((c.logged a).send (scope a.repository push) d).Ends s (fun _ s' => Trail c actions s')
      fun _ s' => Trail c actions s' := by
  unfold send
  refine Call.Ends.bind ((authorization_ends _).mono (fun _ _ hauth => hauth) fun _ _ => False.elim)
    ?_
  rintro auth s1 ⟨rfl, hauth⟩
  have hfirst : ∀ r response, d.request auth = .ok r →
      Entitled c s1.connection.2 ⟨a, r, response⟩ :=
    entitled_of_request hd fun token hmem => (hauth token hmem).imp_right (h.kept _ token)
  refine Call.Ends.bind (trail_of_exchange h ha hfirst) ?_
  rintro response s2 ⟨h2, r, hr, hlog⟩
  rcases hchallenge : challengeOf response with _ | challenge
  · exact Call.Ends.pure h2
  have hscope := hd.scope_of_request hr (some response)
  have hfetch := trail_of_fetchToken h2 ha hlog hchallenge
  rw [hscope] at hfetch
  refine Call.Ends.bind hfetch ?_
  rintro token s3 ⟨h3, hgranted⟩
  have hfor : GrantedFor c s3.connection.2 (scope a.repository push) token :=
    ⟨_, hgranted, hscope, hd.directed_of_request hr _⟩
  refine Call.Ends.bind (Q := fun _ s' => Trail c actions s' ∧
    GrantedFor c s'.connection.2 (scope a.repository push) token) ⟨h3.keep hfor, hfor⟩ ?_
  rintro _ s4 ⟨h4, hfor⟩
  have hretried : ∀ r response, d.request [Credentials.bearerHeader token] = .ok r →
      Entitled c s4.connection.2 ⟨a, r, response⟩ := by
    refine entitled_of_request hd fun token' hmem => .inr ?_
    rw [bearerHeader_inj (List.mem_singleton.1 hmem)]
    exact hfor
  exact (trail_of_exchange h4 ha hretried).mono (fun _ _ h5 => h5.1) fun _ _ h5 => h5

/-! ## What an operation does -/

theorem repositoryUrl_logged (c : RemoteRegistry τ) (a : Action) (repo : Reference) :
    (c.logged a).repositoryUrl repo = c.repositoryUrl repo := rfl

theorem blobUrl_logged (c : RemoteRegistry τ) (a : Action) (repo : Reference) (d : Digest) :
    (c.logged a).blobUrl repo d = c.repositoryUrl repo ++ ("/blobs/" ++ d.toText) := by
  unfold blobUrl
  rw [repositoryUrl_logged, String.append_assoc]

theorem uploadsUrl_logged (c : RemoteRegistry τ) (a : Action) (repo : Reference) :
    (c.logged a).uploadsUrl repo = c.repositoryUrl repo ++ "/blobs/uploads/" := by
  unfold uploadsUrl
  rw [repositoryUrl_logged]

theorem manifestUrl_logged (c : RemoteRegistry τ) (a : Action) (repo : Reference) (key : String) :
    (c.logged a).repositoryUrl repo ++ "/manifests/" ++ key =
      c.repositoryUrl repo ++ ("/manifests/" ++ key) := by
  rw [repositoryUrl_logged, String.append_assoc]

/-- A draft for a text that begins as the URL of the repository. -/
theorem isOf_ofText (m : Method) {suffix text : String}
    (htext : text = c.repositoryUrl a.repository ++ suffix) :
    (Draft.ofText m text).IsOf c a (writes m) where
  access := rfl
  plain := List.forall_mem_nil _
  directed := by
    refine .inr fun url hurl => ?_
    unfold Draft.ofText at hurl
    rw [htext] at hurl
    exact siteOf_of_parse hurl

theorem Draft.IsOf.filled {d : Draft} (hd : d.IsOf c a push) {headers : List (String × String)}
    (hplain : ∀ h ∈ headers, h.1 ≠ "authorization") (body : Bytes) :
    { d with headers, body }.IsOf c a push where
  access := hd.access
  plain := hplain
  directed := hd.directed

-- A structure and not a definition, which unification would unfold down to the requests themselves.
/-- A call that goes on with a trail. -/
structure Trails {α : Type} (c : RemoteRegistry τ) (actions : List Action)
    (call : Call (State (τ × List Exchange)) α) : Prop where
  ends : ∀ s, Trail c actions s →
    call.Ends s (fun _ s' => Trail c actions s') fun _ s' => Trail c actions s'

namespace Trails

variable {α β : Type} {call : Call (State (τ × List Exchange)) α}
  {f : α → Call (State (τ × List Exchange)) β}

theorem pure (x : α) : Trails c actions (Pure.pure x) := ⟨fun _ h => Call.Ends.pure h⟩

theorem throw (e : Error) :
    Trails c actions (MonadExcept.throw e : Call (State (τ × List Exchange)) α) :=
  ⟨fun _ h => Call.Ends.throw h⟩

theorem ofExcept (r : Except Error α) : Trails c actions (Call.ofExcept r) :=
  ⟨fun _ h => Call.Ends.ofExcept (fun _ _ => h) fun _ _ => h⟩

theorem bind (hcall : Trails c actions call) (hf : ∀ x, Trails c actions (f x)) :
    Trails c actions (call >>= f) :=
  ⟨fun s h => Call.Ends.bind (hcall.ends s h) fun x s' h' => (hf x).ends s' h'⟩

theorem ofExcept_bind {r : Except Error α} (hf : ∀ x, r = .ok x → Trails c actions (f x)) :
    Trails c actions (Call.ofExcept r >>= f) := by
  refine ⟨fun s h => ?_⟩
  refine Call.Ends.bind (Q := fun x s' => r = .ok x ∧ Trail c actions s')
    (Call.Ends.ofExcept (fun _ hx => ⟨hx, h⟩) fun _ _ => h) ?_
  rintro x s' ⟨hx, h'⟩
  exact (hf x hx).ends s' h'

theorem ite {p : Prop} [Decidable p] {other : Call (State (τ × List Exchange)) α}
    (hcall : Trails c actions call) (hother : Trails c actions other) :
    Trails c actions (if p then call else other) := by
  split
  · exact hcall
  · exact hother

theorem send (ha : a ∈ actions) {d : Draft} (hd : d.IsOf c a push) :
    Trails c actions ((c.logged a).send (scope a.repository push) d) :=
  ⟨fun _ h => trail_of_send h ha hd⟩

end Trails

theorem trails_blobExists (ha : a ∈ actions) (d : Digest) :
    Trails c actions ((c.logged a).blobExists a.repository d) := by
  refine .bind ?_ fun response => .pure _
  exact .send ha (isOf_ofText .head (blobUrl_logged c a a.repository d))

theorem trails_putBlob {repo : Reference} {d : Digest} {data : Bytes}
    (ha : .putBlob repo d data ∈ actions) :
    Trails c actions ((c.logged (.putBlob repo d data)).putBlob repo d data) := by
  refine .bind ?_ fun there => .ite (.pure ()) ?_
  · exact trails_blobExists ha d
  refine .bind ?_ fun opened => .bind (.ofExcept _) fun url => ?_
  · exact .send ha (isOf_ofText .post (uploadsUrl_logged c _ repo))
  refine .bind ?_ fun response => .ite (.throw _) (.pure ())
  exact .send ha ⟨rfl, plain_singleton contentType_ne _, .inl ⟨rfl, repo, d, data, rfl⟩⟩

theorem trails_mountBlob {source target : Reference} {d : Digest}
    (ha : .mountBlob source target d ∈ actions) :
    Trails c actions ((c.logged (.mountBlob source target d)).mountBlob source target d) := by
  refine .ite (.pure false) (.ofExcept_bind fun url hurl => ?_)
  refine .bind ?_ fun response => .pure _
  refine .send ha ⟨rfl, List.forall_mem_nil _, .inr fun sent hsent => ?_⟩
  have hparse : Url.parse (c.repositoryUrl target ++ "/blobs/uploads/").toList = .ok url := by
    rw [uploadsUrl_logged] at hurl
    unfold urlFor at hurl
    split at hurl
    · next u hu =>
      rw [← Except.ok.inj hurl]
      exact hu
    · cases hurl
  have hsite : c.siteOf target = some url.site := siteOf_of_parse hparse
  rw [← Except.ok.inj hsent]
  exact hsite

/-- An operation asks for no more than it is entitled to. -/
theorem trails_perform (ha : a ∈ actions) : Trails c actions (a.perform (c.logged a)) := by
  cases a with
  | getManifest r =>
    refine .bind (.bind ?_ fun response => .ofExcept _) fun _ => .pure ()
    have hurl := manifestUrl_logged c (.getManifest r) r r.lookupKey
    have hdraft := isOf_ofText (c := c) (a := .getManifest r) .get hurl
    have hfilled := hdraft.filled (plain_singleton accept_ne accepted) []
    exact .send ha hfilled
  | getBlob repo d =>
    refine .bind (.bind ?_ fun response => .ofExcept _) fun _ => .pure ()
    exact .send ha (isOf_ofText .get (blobUrl_logged c _ repo d))
  | blobExists repo d => exact .bind (trails_blobExists ha d) fun _ => .pure ()
  | putBlob repo d data => exact trails_putBlob ha
  | mountBlob source target d => exact .bind (trails_mountBlob ha) fun _ => .pure ()
  | putManifest target raw =>
    refine .bind ?_ fun response => .ite (.throw _) (.pure ())
    have hurl := manifestUrl_logged c (.putManifest target raw) target
      (target.tag.getD raw.digest.toText)
    have hdraft := isOf_ofText (c := c) (a := .putManifest target raw) .put hurl
    have hfilled := hdraft.filled (plain_singleton contentType_ne raw.mediaType) raw.bytes
    exact .send ha hfilled

end

/-! ## What a run does -/

section

variable {c : RemoteRegistry τ} {actions : List Action}

theorem Trail.start (connection : τ) : Trail c actions { connection := (connection, []) } where
  justified := .nil
  kept := by
    intro scope token hkept
    cases hkept
  performed := List.forall_mem_nil _

theorem Trail.run {s : State (τ × List Exchange)} (h : Trail c actions s) {rest : List Action}
    (hrest : ∀ a ∈ rest, a ∈ actions) : Trail c actions (c.run rest s) := by
  induction rest generalizing s with
  | nil => exact h
  | cons a rest ih =>
    have hstep := (trails_perform (hrest a List.mem_cons_self)).ends s h
    have hnext : Trail c actions (a.perform (c.logged a) s).2 := by
      unfold Call.Ends at hstep
      rcases hperform : a.perform (c.logged a) s with ⟨e | _, s'⟩ <;> rw [hperform] at hstep <;>
        exact hstep
    exact ih hnext fun b hb => hrest b (List.mem_cons_of_mem a hb)

theorem trail_log (c : RemoteRegistry τ) (actions : List Action) (connection : τ) :
    Trail c actions (c.run actions { connection := (connection, []) }) :=
  (Trail.start connection).run fun _ ha => ha

theorem mem_actions_of_mem_log {connection : τ} {e : Exchange}
    (he : e ∈ c.log actions connection) : e.action ∈ actions :=
  (trail_log c actions connection).performed e he

/-- A token is only sent to the site whose challenge it was granted for, unless it is configured. -/
def TokensStay (c : RemoteRegistry τ) (log : List Exchange) : Prop :=
  ∀ before e after token, log = before ++ e :: after → e.Carries token →
    c.credentials = .bearer token ∨
      ∃ challenged, Granted before challenged token ∧ challenged.site = e.site

/-- A client ends with a log as it does without. A token that is sent was granted before, to a request
    for a repository of the same path that writes if and only if this one does; and both requests go to
    the registry of their repository, unless they are uploads. So a token stays at the site that asked
    for it if no path is used at two sites and uploads are not sent elsewhere; nothing else sees to
    it. -/
theorem tokens_of_run (c : RemoteRegistry τ) (actions : List Action) (connection : τ) :
    (c.run actions { connection := (connection, []) }).unlogged =
      actions.foldl (fun s a => (a.perform c s).2) { connection } ∧
    (∀ before e after token, c.log actions connection = before ++ e :: after → e.Carries token →
      c.credentials = .bearer token ∨ Directed c e ∧ ∃ challenged,
        Granted before challenged token ∧ Directed c challenged ∧
        challenged.action.repository.repository = e.action.repository.repository ∧
        writes challenged.request.method = writes e.request.method) ∧
    ((∀ a ∈ actions, ∀ b ∈ actions, a.repository.repository = b.repository.repository →
        c.siteOf a.repository = c.siteOf b.repository) →
      (∀ e ∈ c.log actions connection, e.IsUpload → c.siteOf e.action.repository = some e.site) →
      TokensStay c (c.log actions connection)) := by
  have hfirst (before : List Exchange) (e : Exchange) (after : List Exchange) (token : String)
      (hlog : c.log actions connection = before ++ e :: after) (hcarries : e.Carries token) :
      c.credentials = .bearer token ∨ Directed c e ∧ ∃ challenged,
        Granted before challenged token ∧ Directed c challenged ∧
        challenged.action.repository.repository = e.action.repository.repository ∧
        writes challenged.request.method = writes e.request.method := by
    refine ((trail_log c actions connection).justified.of_split hlog token hcarries).imp_right ?_
    rintro ⟨hdirected, challenged, hgranted, hscope, hchallenged⟩
    exact ⟨hdirected, challenged, hgranted, hchallenged, scope_inj hscope⟩
  refine ⟨c.run_logged actions { connection := (connection, []) }, hfirst,
    fun hpaths huploads before e after token hlog hcarries => ?_⟩
  rcases hfirst before e after token hlog hcarries with hconfigured | ⟨hdirected, challenged,
    hgranted, hchallenged, hpath, -⟩
  · exact .inl hconfigured
  have hsite (x : Exchange) (hx : x ∈ c.log actions connection) (hd : Directed c x) :
      c.siteOf x.action.repository = some x.site := hd.elim (huploads x hx) id
  have hmem : e ∈ c.log actions connection := by
    rw [hlog]
    exact List.mem_append_right _ List.mem_cons_self
  have hearlier : challenged ∈ c.log actions connection := by
    rw [hlog]
    exact List.mem_append_left _ hgranted.mem
  have hsame := hpaths _ (mem_actions_of_mem_log hearlier) _ (mem_actions_of_mem_log hmem) hpath
  rw [hsite challenged hearlier hchallenged, hsite e hmem hdirected] at hsame
  exact .inr ⟨challenged, hgranted, Option.some.inj hsame⟩

end

/-! ## Two registries with a path in common -/

instance (e : Exchange) (token : String) : Decidable (e.Carries token) :=
  inferInstanceAs (Decidable (_ ∈ _))

/-- The last exchange carries a token to a site where none went before. -/
def Strays (log : List Exchange) (token : String) : Prop :=
  ∃ e ∈ log.getLast?, e.Carries token ∧ ∀ x ∈ log.dropLast, x.site ≠ e.site

instance (log : List Exchange) (token : String) : Decidable (Strays log token) :=
  inferInstanceAs (Decidable (∃ e ∈ log.getLast?, _))

theorem Strays.last {log : List Exchange} {token : String} (h : Strays log token) :
    ∃ before e, log = before ++ [e] ∧ e.Carries token ∧ ∀ x ∈ before, x.site ≠ e.site := by
  obtain ⟨e, he, hcarries, hsites⟩ := h
  exact ⟨log.dropLast, e, (List.dropLast_append_getLast? e he).symm, hcarries, hsites⟩

theorem Strays.not_tokensStay {c : RemoteRegistry τ} {log : List Exchange} {token : String}
    (h : Strays log token) (hc : c.credentials ≠ .bearer token) : ¬ TokensStay c log := by
  intro hstay
  obtain ⟨before, e, hlog, hcarries, hsites⟩ := h.last
  rcases hstay before e [] token hlog hcarries with hconfigured | ⟨challenged, hgranted, hsite⟩
  · exact hc hconfigured
  · exact hsites challenged hgranted.mem hsite

namespace Challenged

/-- The repository of the same path at another registry. -/
def twin : Reference := { repo with written := "[::2]/c", name := "[::2]/c", registry := "[::2]" }

def asked (repo : Reference) : Action := .blobExists repo otherDigest

/-- A registry that asks for a token, a server that grants it, and answers to all that follows. -/
def served : Script := { responses := [challenge, granted, answer, answer] }

/-- A registry that sends an upload to another one. -/
def moved : Response where
  status := 202
  headers := [("Location", "http://[::2]/u")]

def uploaded : Action := .putBlob repo otherDigest []

def uploading : Script :=
  { responses := [{ status := 404 }, challenge, granted, moved, { status := 201 }] }

end Challenged

set_option maxRecDepth 100000 in
open Challenged in
/-- A token of one registry is sent to another that has the path, and to the one that an upload is
    moved to; at one registry it stays. -/
theorem tokens_of_run_challenged :
    (∃ before challenged e, client.log [asked repo, asked twin] served = before ++ [e] ∧
        e.Carries "t" ∧ Granted before challenged "t" ∧ challenged.site ≠ e.site) ∧
      ¬ TokensStay client (client.log [asked repo, asked twin] served) ∧
      ¬ TokensStay client (client.log [uploaded] uploading) ∧
      TokensStay client (client.log [asked repo, asked repo] served) ∧
      ∃ e ∈ client.log [asked repo, asked repo] served, e.Carries "t" := by
  have hanonymous : client.credentials ≠ .bearer "t" := by decide
  have hstrays : Strays (client.log [asked repo, asked twin] served) "t" := by decide +kernel
  have hmoved : Strays (client.log [uploaded] uploading) "t" := by decide +kernel
  refine ⟨?_, hstrays.not_tokensStay hanonymous, hmoved.not_tokensStay hanonymous, ?_,
    by decide +kernel⟩
  · obtain ⟨before, e, hlog, hcarries, hsites⟩ := hstrays.last
    rcases (tokens_of_run client [asked repo, asked twin] served).2.1 before e [] "t" hlog hcarries
      with hconfigured | ⟨-, challenged, hgranted, -⟩
    · exact (hanonymous hconfigured).elim
    · exact ⟨before, challenged, e, hlog, hcarries, hgranted, hsites _ hgranted.mem⟩
  · refine (tokens_of_run client [asked repo, asked repo] served).2.2 ?_ ?_
    · simp
    · rintro e he ⟨-, _, _, _, hblob⟩
      have haction := mem_actions_of_mem_log he
      rw [hblob] at haction
      simp [asked] at haction

end RemoteRegistry

end OciCompose
