import PolicyHost.Fault
import PolicyHost.Schema.Strict

namespace PolicyHost

/-!
# Manifests

A bundle's manifest tells its revision, the data paths it owns, and which
policy modules it holds and for which entrypoints.  Everything has a default,
and what else a manifest says is passed over.
-/

structure ManifestEntry where
  entrypoint : String := ""
  path : String := ""
deriving DecidableEq, Repr, Inhabited

structure Manifest where
  revision : String := ""
  roots : List String := []
  modules : List ManifestEntry := []
deriving DecidableEq, Repr, Inhabited

namespace Manifest

/-- The schema of an entry.  Modules are named by rooted paths. -/
def entrySchema : Schema :=
  .model "WasmManifestEntry"
    [("entrypoint", .text, some (.text "")),
      ("module", .refined .memberPath .text, some (.text ""))]
    .ignore

def schema : Schema :=
  .model "Manifest"
    [("revision", .text, some (.text "")),
      ("roots", .list .text, some (.list [])),
      ("wasm", .list entrySchema, some (.list []))]
    .ignore

def entryOf (record : Value) : ManifestEntry where
  entrypoint := (record.field "entrypoint").text?.getD ""
  path := (record.field "module").text?.getD ""

def ofRecord (record : Value) : Manifest where
  revision := (record.field "revision").text?.getD ""
  roots := (record.field "roots").items.filterMap Value.text?
  modules := (record.field "wasm").items.map entryOf

/-- The manifest that bytes denote, or else the summary of what is wrong with
them. -/
def read (bytes : Bytes) : Except String Manifest :=
  match Strict.validateBytes schema bytes with
  | .ok record => .ok (ofRecord record)
  | .error issues => .error (Issue.summary .document issues)

end Manifest
end PolicyHost
