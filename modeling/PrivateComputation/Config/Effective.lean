import PrivateComputation.Config.Merge
import PrivateComputation.Config.Settings
import PrivateComputation.Config.Toml.Reader
import PrivateComputation.Digest.Sha256
import PrivateComputation.Files.Fault
import PrivateComputation.Text.Encoding
import PrivateComputation.Text.Split

/-!
The configuration in effect: the built-in one under the layers of the host, of the project and of
the command line, with the sources that it came from.
-/

namespace PrivateComputation

inductive ConfigFault where
  | file (path : String) (fault : FileFault)
  | notText (fault : EncodingFault)
  | notToml (path : String)
  | invalid (cause : SettingsFault)
  deriving DecidableEq

def ConfigFault.message : ConfigFault → String
  | .file path fault => "IO error: " ++ path ++ ": " ++ fault.message
  | .notText fault => "Parse error: Invalid UTF-8: " ++ fault.message
  | .notToml path => "Parse error: " ++ path ++ ": TOML parse error"
  | .invalid cause => "Validation error: " ++ cause.message

inductive ConfigOrigin where
  | builtin
  | host
  | repo
  | cli
  deriving DecidableEq

def ConfigOrigin.name : ConfigOrigin → String
  | .builtin => "builtin"
  | .host => "host"
  | .repo => "repo"
  | .cli => "cli"

structure ConfigFile where
  path : String
  content : Except FileFault ByteArray

structure ConfigSource where
  origin : ConfigOrigin
  file : Option (String × String)
  deriving DecidableEq

namespace ConfigFile

def layer (file : ConfigFile) : Except ConfigFault (Json × String) := do
  let bytes ← file.content.mapError (.file file.path)
  match String.fromUTF8? bytes with
  | none => .error (.notText (.ofBytes bytes.toList))
  | some text =>
      match Toml.ofText text with
      | none => .error (.notToml file.path)
      | some toml => .ok (toml.toJson, Sha256.hexDigest bytes.toList)

def load (origin : ConfigOrigin) (file : Option ConfigFile) :
    Except ConfigFault (List (Json × ConfigSource)) :=
  match file with
  | none => .ok []
  | some file => do
      let (layer, digest) ← file.layer
      .ok [(layer, ⟨origin, some (file.path, digest)⟩)]

end ConfigFile

structure EffectiveConfig where
  createdAt : Instant
  tree : Json
  sources : List ConfigSource

namespace EffectiveConfig

/-- Merges the layers and refuses a configuration that is not valid. Files that are not there are
not given. -/
def build (createdAt : Instant) (host repo : Option ConfigFile) (overrides : Option SortedJson) :
    Except ConfigFault EffectiveConfig := do
  let hostLayers ← ConfigFile.load .host host
  let repoLayers ← ConfigFile.load .repo repo
  let overrideLayers := overrides.toList.map (fun layer => (layer.json, ConfigSource.mk .cli none))
  let layers := (Settings.defaults.json, ConfigSource.mk .builtin none) ::
    (hostLayers ++ repoLayers ++ overrideLayers)
  let tree := Json.mergeLayers (layers.map Prod.fst)
  let _ ← (Settings.ofJson tree).mapError .invalid
  .ok ⟨createdAt, tree, layers.map Prod.snd⟩

def settings (config : EffectiveConfig) : Except ConfigFault Settings :=
  (Settings.ofJson config.tree).mapError .invalid

def get? (config : EffectiveConfig) (path : String) : Option Json :=
  config.tree.at? ((splitOn '.' path.toList).map String.ofList)

def toJson (config : EffectiveConfig) : Json :=
  .object
    [("schema_version", .ofNat 1), ("schema_id", .string "pce-toolkit/effective_config@1"),
      ("created_at", .string (toString config.createdAt)), ("config", config.tree),
      ("sources",
        .array (config.sources.map (fun source =>
          .object
            (("origin", .string source.origin.name) ::
              match source.file with
              | some (path, digest) => [("path", .string path), ("digest", .string digest)]
              | none => []))))]

end EffectiveConfig

end PrivateComputation
