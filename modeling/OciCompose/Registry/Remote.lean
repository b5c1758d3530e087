import OciCompose.Assoc
import OciCompose.Http.Message
import OciCompose.Registry.Basic
import OciCompose.Registry.Challenge
import OciCompose.Registry.Credentials

/-
  Registries behind HTTP, by the distribution protocol.
  A registry may answer a request with a challenge; the token it then grants is kept for the scope of
  the request. Manifests and blobs that were asked for by digest are checked against it.
-/

namespace OciCompose

/-- A client for registries. `insecure` takes plain HTTP. -/
structure RemoteRegistry (τ : Type) where
  transport : Http.Transport τ
  credentials : Credentials := .anonymous
  insecure : Bool := false

/-- The tokens that a client has, by scope, and the state of its transport. -/
structure RemoteRegistry.State (τ : Type) where
  tokens : Assoc String String := .empty
  connection : τ

namespace RemoteRegistry

open Http

variable {τ : Type}

def userAgent : String := "layerstack/0.2.0"

/-- The host that serves a registry. -/
def hostOf (registry : String) : String :=
  if registry = "docker.io" ∨ registry = "index.docker.io" then "registry-1.docker.io" else registry

/-- Where a repository is served. -/
def repositoryUrl (c : RemoteRegistry τ) (repo : Reference) : String :=
  (if c.insecure then "http" else "https") ++ "://" ++ hostOf repo.registry ++ "/v2/" ++
    repo.repository

/-- What a token is granted for. -/
def scope (repo : Reference) (push : Bool) : String :=
  "repository:" ++ repo.repository ++ ":" ++ if push then "pull,push" else "pull"

/-! ## Requests -/

/-- A request to make, which has no URL if its text was malformed. -/
structure Draft where
  method : Method
  url : Except UrlFault Url
  headers : List (String × String) := []
  body : Bytes := []

/-- A draft for the text of a URL. -/
def Draft.ofText (method : Method) (url : String) : Draft :=
  { method, url := Url.parse url.toList }

/-- The request of a draft with headers for its authorization, after those that the URL itself
    gives. -/
def Draft.request (d : Draft) (authorization : List (String × String)) :
    Except HttpFault Request :=
  match d.url with
  | .error f => .error (.badUrl f)
  | .ok url =>
    let r : Request := {
      method := d.method
      url := { url with userInfo := none }
      headers := ("user-agent", userAgent) ::
        ((url.userInfo.map Credentials.basicHeader).toList ++ d.headers ++ authorization)
      body := d.body }
    if !r.isSendable then .error .badHeader
    else if r.url.isRequestable then .ok r
    else .error (.notRequestable r.url.fullText)

/-- Makes one request. -/
def exchange (c : RemoteRegistry τ) (d : Draft) (authorization : List (String × String)) :
    Call (State τ) Response := fun s =>
  match d.request authorization with
  | .error f => (.error (.http f), s)
  | .ok r =>
    match c.transport.exchange r s.connection with
    | (some response, t) => (.ok response, { s with connection := t })
    | (none, t) => (.error (.http .noConnection), { s with connection := t })

def keepToken (scope token : String) : Call (State τ) Unit := fun s =>
  (.ok (), { s with tokens := s.tokens.insert scope token })

/-- The headers of a request in a scope: the token of the scope, or else the credentials. -/
def authorization (c : RemoteRegistry τ) (scope : String) : Call (State τ) (List (String × String)) :=
  fun s =>
    (.ok (match s.tokens.get? scope with
      | some t => [Credentials.bearerHeader t]
      | none => c.credentials.headers), s)

/-! ## Tokens -/

/-- The URL of a token that a challenge asks for. -/
def tokenUrl (challenge : SortedMap String) (scope : String) : Except Error Url :=
  match challenge.get? "realm" with
  | none => .error (.registry .auth "bearer challenge without realm")
  | some realm =>
    match Url.parse realm.toList with
    | .error .otherScheme => .error (.http (.badUrl .otherScheme))
    | .error f => .error (.registry .auth f.message)
    | .ok url =>
      let url :=
        match challenge.get? "service" with
        | some s => url.appendField "service" s
        | none => url
      .ok (url.appendField "scope" ((challenge.get? "scope").getD scope))

/-- The token in the answer to a request for one. -/
def tokenOf (response : Response) : Except Error String :=
  if !response.isSuccess then
    .error (.registry .auth ("token request failed: " ++ statusText response.status))
  else
    match Json.Decode.ofBytes? Json.valueOf response.body with
    | none => .error (.http .badBody)
    | some v =>
      match ((v.member? "token").or (v.member? "access_token")).bind Json.Value.string? with
      | some t => .ok t
      | none => .error (.registry .auth "token response without token")

/-- Credentials for a token server: only a user with a password. -/
def tokenCredentials (c : RemoteRegistry τ) : List (String × String) :=
  match c.credentials with
  | .basic .. => c.credentials.headers
  | _ => []

/-- Asks for the token of a challenge. -/
def fetchToken (c : RemoteRegistry τ) (challenge : SortedMap String) (scope : String) :
    Call (State τ) String := do
  let url ← Call.ofExcept (tokenUrl challenge scope)
  let response ← exchange c { method := .get, url := .ok url } c.tokenCredentials
  Call.ofExcept (tokenOf response)

/-- The challenge of a response, if there is one that can be met. -/
def challengeOf (response : Response) : Option (SortedMap String) :=
  if response.status = 401 then
    ((response.header? "www-authenticate").filter fun h =>
      Challenge.scheme.toList.isPrefixOf h.toList).map Challenge.parse
  else none

/-- Makes a request in a scope. If the answer is a challenge, gets a token and asks once more. -/
def send (c : RemoteRegistry τ) (scope : String) (d : Draft) : Call (State τ) Response := do
  let response ← exchange c d (← c.authorization scope)
  match challengeOf response with
  | none => return response
  | some challenge =>
    let token ← c.fetchToken challenge scope
    keepToken scope token
    exchange c d [Credentials.bearerHeader token]

/-! ## Operations -/

/-- The media types of manifests that are asked for. -/
def accepted : String :=
  ", ".intercalate
    [MediaType.ociIndex, MediaType.ociManifest, MediaType.dockerManifestList,
      MediaType.dockerManifest]

/-- The media type that a response gives a manifest: its own, if it is a vendor type, without
    parameters. -/
def mediaTypeOf (response : Response) : Except Error String :=
  let declared := (response.header? "content-type").map fun t =>
    Text.trim (String.ofList (t.toList.takeWhile (· != ';')))
  match declared.filter fun t => "application/vnd.".toList.isPrefixOf t.toList with
  | some t => .ok t
  | none => sniffMediaType response.body

/-- The manifest of a response to a request for a reference. -/
def manifestOf (r : Reference) (response : Response) : Except Error RawManifest :=
  if !response.isSuccess then
    .error (.registry .pull ("manifest " ++ r.toText ++ ": " ++ statusText response.status))
  else
    match mediaTypeOf response with
    | .error e => .error e
    | .ok mediaType =>
      let raw : RawManifest := ⟨mediaType, response.body⟩
      match r.digest with
      | some d =>
        if raw.digest = d then .ok raw
        else .error (.registry .pull
          ("manifest digest " ++ raw.digest.toText ++ " does not match " ++ d.toText))
      | none => .ok raw

def getManifest (c : RemoteRegistry τ) (r : Reference) : Call (State τ) RawManifest := do
  let response ← c.send (scope r false)
    { Draft.ofText .get (c.repositoryUrl r ++ "/manifests/" ++ r.lookupKey) with
      headers := [("accept", accepted)] }
  Call.ofExcept (manifestOf r response)

/-- The blob of a response to a request for a digest. -/
def blobOf (d : Digest) (response : Response) : Except Error Bytes :=
  if !response.isSuccess then
    .error (.registry .pull ("blob " ++ d.toText ++ ": " ++ statusText response.status))
  else if Digest.ofBytes response.body = d then .ok response.body
  else .error (.registry .pull ("blob content does not match " ++ d.toText))

def blobUrl (c : RemoteRegistry τ) (repo : Reference) (d : Digest) : String :=
  c.repositoryUrl repo ++ "/blobs/" ++ d.toText

def getBlob (c : RemoteRegistry τ) (repo : Reference) (d : Digest) : Call (State τ) Bytes := do
  let response ← c.send (scope repo false) (.ofText .get (c.blobUrl repo d))
  Call.ofExcept (blobOf d response)

def blobExists (c : RemoteRegistry τ) (repo : Reference) (d : Digest) : Call (State τ) Bool := do
  let response ← c.send (scope repo false) (.ofText .head (c.blobUrl repo d))
  return response.isSuccess

def uploadsUrl (c : RemoteRegistry τ) (repo : Reference) : String :=
  c.repositoryUrl repo ++ "/blobs/uploads/"

/-- A URL that has to be well formed for an operation. -/
def urlFor (operation : Operation) (url : Except UrlFault Url) : Except Error Url :=
  match url with
  | .ok u => .ok u
  | .error f => .error (.registry operation f.message)

/-- Where an upload goes that a registry has opened, for a blob of a digest. -/
def uploadUrl (c : RemoteRegistry τ) (repo : Reference) (opened : Response) (d : Digest) :
    Except Error Url := do
  if !opened.isSuccess then
    throw (.registry .upload ("initiate blob upload: " ++ statusText opened.status))
  let some location := opened.header? "location"
    | throw (.registry .upload "no Location header in upload initiation")
  let base ← urlFor .upload (Url.parse (c.repositoryUrl repo).toList)
  match base.join location.toList with
  | .error .otherScheme => throw (.http (.badUrl .otherScheme))
  | url => return (← urlFor .upload url).appendField "digest" d.toText

/-- Uploads a blob in one piece, unless the repository has it. -/
def putBlob (c : RemoteRegistry τ) (repo : Reference) (d : Digest) (data : Bytes) :
    Call (State τ) Unit := do
  if ← c.blobExists repo d then return
  let opened ← c.send (scope repo true) (.ofText .post (c.uploadsUrl repo))
  let url ← Call.ofExcept (c.uploadUrl repo opened d)
  let response ← c.send (scope repo true)
    { method := .put, url := .ok url, headers := [("content-type", "application/octet-stream")],
      body := data }
  if !response.isSuccess then
    throw (.registry .upload ("blob " ++ d.short ++ ": " ++ statusText response.status))

/-- Mounts a blob of another repository, which has to be in the same registry. -/
def mountBlob (c : RemoteRegistry τ) (source target : Reference) (d : Digest) :
    Call (State τ) Bool := do
  if source.registry ≠ target.registry then return false
  let url ← Call.ofExcept (urlFor .mount (Url.parse (c.uploadsUrl target).toList))
  let url := (url.appendField "mount" d.toText).appendField "from" source.repository
  let response ← c.send (scope target true) { method := .post, url := .ok url }
  return response.status == 201

def putManifest (c : RemoteRegistry τ) (target : Reference) (raw : RawManifest) :
    Call (State τ) Unit := do
  let key := target.tag.getD raw.digest.toText
  let response ← c.send (scope target true)
    { Draft.ofText .put (c.repositoryUrl target ++ "/manifests/" ++ key) with
      headers := [("content-type", raw.mediaType)]
      body := raw.bytes }
  if !response.isSuccess then
    throw (.registry .push ("manifest " ++ target.toText ++ ": " ++ statusText response.status ++
      " " ++ Utf8.decodeLossy response.body))

def registry (c : RemoteRegistry τ) : Registry (State τ) where
  getManifest := c.getManifest
  getBlob := c.getBlob
  blobExists := c.blobExists
  putBlob := c.putBlob
  mountBlob := c.mountBlob
  putManifest := c.putManifest

end RemoteRegistry

end OciCompose
