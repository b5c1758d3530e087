import OciCompose.Base64

/-
  Credentials for a registry.
-/

namespace OciCompose

inductive Credentials where
  | anonymous
  | basic (user password : String)
  | bearer (token : String)
deriving DecidableEq

namespace Credentials

def tokenVariable : String := "LAYERSTACK_REGISTRY_TOKEN"

def userVariable : String := "LAYERSTACK_REGISTRY_USERNAME"

def passwordVariable : String := "LAYERSTACK_REGISTRY_PASSWORD"

/-- The credentials that environment variables give: a token, or else a user with a password. Empty
    tokens and users do not count. -/
def ofVariables (environment : String → Option String) : Credentials :=
  match (environment tokenVariable).filter (!·.isEmpty) with
  | some t => bearer t
  | none =>
    match (environment userVariable).filter (!·.isEmpty), environment passwordVariable with
    | some u, some p => basic u p
    | _, _ => anonymous

/-- The header for a user and a password that are joined by a colon. -/
def basicHeader (userPassword : Bytes) : String × String :=
  ("authorization", "Basic " ++ String.ofList (Base64.encode userPassword))

def bearerHeader (token : String) : String × String := ("authorization", "Bearer " ++ token)

/-- The headers of a request with these credentials. -/
def headers : Credentials → List (String × String)
  | anonymous => []
  | basic u p => [basicHeader (Utf8.encode (u ++ ":" ++ p))]
  | bearer t => [bearerHeader t]

end Credentials

end OciCompose
