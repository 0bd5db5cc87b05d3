import PullSecrets.Files
import PullSecrets.Kubeconfig.Reader

/-!
# Where kubeconfigs are kept

A kubeconfig is read from a file, and the files that it names are seen from the directory of that
file. Clients that are told of no kubeconfig take those that a variable lists, merged, or else the
one below the home directory.
-/

namespace PullSecrets.Kubeconfig

def isAbsolute (path : Bytes) : Bool := path.head? == some 47

/-- A path continued by another, unless that starts at the root. -/
def joined (directory path : Bytes) : Bytes :=
  if isAbsolute path || directory.isEmpty then path
  else if directory.getLast? = some 47 then directory ++ path
  else directory ++ 47 :: path

def directoryOf (path : Bytes) : Bytes :=
  let up := (path.reverse.dropWhile (· == 47)).dropWhile (· != 47)
  if (up.all (· == 47)) && isAbsolute path then [47] else (up.dropWhile (· == 47)).reverse

/-- A file named in a kubeconfig, as seen from the directory of the kubeconfig. -/
def placed (directory : Bytes) (file : String) : Bytes := joined directory (Text.encode file)

def pathText (path : Bytes) (other : String) : String := (Text.decode? path).getD other

/-- A kubeconfig with the files that it names seen from its directory. -/
def seenFrom (directory : Bytes) (k : Kubeconfig) : Kubeconfig :=
  let seen (file : String) : String := pathText (placed directory file) file
  { k with
    clusters := k.clusters.map fun e => { e with
      value := e.value.map fun c => { c with authorityFile := c.authorityFile.map seen } }
    users := k.users.map fun e => { e with
      value := e.value.map fun u => { u with
        tokenFile := u.tokenFile.map seen
        certificateFile := u.certificateFile.map seen
        keyFile := u.keyFile.map seen } } }

def ofFile? (files : Files) (path : Bytes) : Option Kubeconfig :=
  match files.readText path with
  | .ok document => (read? document).map (seenFrom (directoryOf path))
  | .error _ => none

/-- The parts of a list of paths, which are separated by colons, after some in reverse. -/
def pathsOnto (before : List Bytes) (current : Bytes) : Bytes → List Bytes
  | [] => (current.reverse :: before).reverse
  | 58 :: rest => pathsOnto (current.reverse :: before) [] rest
  | b :: rest => pathsOnto before (b :: current) rest

/-- The paths that a variable lists, if it lists any. -/
def listed (env : Environment) : List Bytes :=
  match env.bytes? "KUBECONFIG" with
  | some value => (pathsOnto [] [] value).filter (!·.isEmpty)
  | none => []

def merged? (files : Files) (paths : List Bytes) : Option Kubeconfig :=
  paths.foldlM (fun k path => (ofFile? files path).bind k.merge?) {}

/-- The kubeconfig below the home directory, which is that of the account unless a variable names
another. -/
def homePath? (account : Option Bytes) (env : Environment) : Option Bytes :=
  ((env.bytes? "HOME").or account).map fun home => joined home (Text.encode ".kube/config")

/-- The kubeconfigs that clients usually use: those that a variable lists, else the one below the
home directory. -/
def usualPaths (account : Option Bytes) (env : Environment) : List Bytes :=
  match listed env with
  | [] => (homePath? account env).toList
  | paths => paths

/-- The content of the kubeconfigs that clients usually use, if there is one. -/
def usual? (account : Option Bytes) (env : Environment) : Option Kubeconfig :=
  match usualPaths account env with
  | [] => none
  | paths => merged? env.files paths

def files (k : Kubeconfig) : List String :=
  (k.clusters.filterMap fun e => e.value.bind (·.authorityFile)) ++
    (k.users.filterMap (·.value)).flatMap UserEntry.files

end PullSecrets.Kubeconfig
