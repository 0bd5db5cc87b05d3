import PullSecrets.Http.Header
import PullSecrets.Kubeconfig.Connect
import PullSecrets.Text.Pem

/-!
# Clients on a workstation

The library on a machine that is not part of a cluster, trusts some authority, and runs no programs
for credentials. Keys and certificates are looked at no further than that they are there.
-/

namespace PullSecrets

namespace ClientLibrary

open Kubeconfig

def hasToken (p : TokenProvider) : Bool :=
  (p.name == "oidc" || p.name == "gcp") && (p.settings.lookup "id-token").isSome

/-- Whether the credentials of a user are at hand, if the user has any. -/
def hasCredentials (files : Files) (u : UserEntry) : Bool :=
  match u.provider with
  | some p => hasToken p
  | none =>
    if (u.username.isSome && u.password.isSome) || u.token.isSome then true
    else
      match u.tokenFile with
      | some file => (files.readText (Text.encode file)).toBool
      | none => u.program.isNone

/-- Whether certificate and key of a user are what they should be, if both are at hand. -/
def hasIdentity (files : Files) (u : UserEntry) : Bool :=
  match material? files u.certificateData u.certificateFile, material? files u.keyData u.keyFile with
  | some certificate, some key =>
    Text.Pem.contains ["CERTIFICATE"] (key ++ certificate) &&
      Text.Pem.contains ["PRIVATE KEY", "RSA PRIVATE KEY", "EC PRIVATE KEY"] (key ++ certificate)
  | _, _ => true

/-- Whether those for whom a user acts can be named in a header. -/
def canAct (u : UserEntry) : Bool :=
  (u.actsFor.toList ++ u.groups).all fun name => (Text.encode name).all Header.isValueByte

/-- Proxies are not supported. -/
def workstation : ClientLibrary where
  certificates? := Text.Pem.certificates?
  home? := none
  inferred? env := (usual? none env).bind fun k => k.config? Text.Pem.certificates? env none
  trusted _ := []
  printed? _ _ := none
  makes env c :=
    c.proxy.isNone && hasCredentials env.files c.user && hasIdentity env.files c.user &&
      canAct c.user

end ClientLibrary

namespace Connection

def ofSettings (env : Environment) (s : ClusterSettings) : Except ConnectError Connection :=
  ClientLibrary.workstation.ofSettings env s

end Connection

end PullSecrets
