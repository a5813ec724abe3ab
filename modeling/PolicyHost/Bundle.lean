import PolicyHost.Bundle.Manifest
import PolicyHost.Bundle.Tar
import PolicyHost.Json.Data
import PolicyHost.Logging
import PolicyHost.Path
import PolicyHost.Value.Literal

namespace PolicyHost

/-!
# Bundles

A bundle is a compressed archive with a manifest, a data document, policy
sources and compiled policy modules.  Its members are told apart by their
rooted names, other members are passed over, and of members with one name the
last counts.  A module is part of the bundle only if the manifest lists it.  A
name need not be UTF-8: its bytes that are none stay in it as they are.
-/

structure PolicyModule where
  entrypoint : String
  path : String
  binary : Bytes
deriving DecidableEq, Repr, Inhabited

structure Bundle where
  manifest : Option Manifest := none
  data : Value := .null
  /-- The policy sources under their names. -/
  sources : List (HostText × String) := []
  /-- The listed modules, in the manifest's order. -/
  modules : List PolicyModule := []
  /-- A module that was compiled ahead. -/
  precompiled : Option Bytes := none
deriving Inhabited

namespace PolicyModule

def literal (policy : PolicyModule) : String :=
  "WasmPolicy(entrypoint=" ++ Literal.ofText policy.entrypoint ++ ", module=" ++
    Literal.ofText policy.path ++ ", size=" ++ toString policy.binary.length ++ ")"

end PolicyModule

namespace Bundle

/-- The wording for what is wrong with an archive. -/
def archiveText : String := "<archive>"

/-- What a member of an archive is to a bundle. -/
inductive Role where
  | manifest
  | data
  | source
  | policy
  | other
deriving DecidableEq, Repr

def rooted : HostText → HostText
  | .whole name => .whole (Rule.rootText name)
  | .broken name => .ofPoints (Rule.rootPath 0x2E 0x2F name.points)

/-- A name ends in a suffix, whatever the case of its letters. -/
def EndsIn (name : HostText) (suffix : String) : Prop :=
  suffix.toList <:+ name.points.map fun point => (Char.ofNat point).toLower

instance (name : HostText) (suffix : String) : Decidable (EndsIn name suffix) :=
  inferInstanceAs (Decidable (_ <:+ _))

def roleOf (name : HostText) : Role :=
  if name = .whole "/.manifest" then .manifest
  else if name = .whole "/data.json" then .data
  else if EndsIn name ".rego" then .source
  else if EndsIn name ".wasm" then .policy
  else .other

/-- What was collected from the members of an archive. -/
structure Contents where
  manifest : Option Manifest := none
  data : Value := .null
  sources : List (HostText × String) := []
  modules : List (HostText × Bytes) := []

/-- The report of an archive that cannot be read. -/
def unreadable (source : String) : Report :=
  Report.badBundle .bundle source archiveText

/-- What ends the loading of a bundle whose data document is not read. -/
def dataFault (source : String) : Json.Data.Flaw → Fault
  | .exhausted => .exhausted
  | flaw => .report (Report.badBundle .bundleData source flaw.text)

variable (room : Nat)

def dataOf (source : String) (bytes : Bytes) : Except Fault Value :=
  (Json.Data.read room bytes).mapError (dataFault source)

/-- Add a member to what was collected. -/
def Contents.add (source : String) (contents : Contents) (role : Role) (name : HostText)
    (bytes : Bytes) : Except Fault Contents :=
  match role with
  | .manifest =>
    match Manifest.read bytes with
    | .ok manifest => .ok { contents with manifest := some manifest }
    | .error summary => .error (.report (Report.badBundle .bundleManifest source summary))
  | .data =>
    match dataOf room source bytes with
    | .ok data => .ok { contents with data }
    | .error fault => .error fault
  | .source =>
    match Utf8.decodeText bytes with
    | some text => .ok { contents with sources := Document.putMember contents.sources name text }
    | none => .error (.report (unreadable source))
  | .policy => .ok { contents with modules := Document.putMember contents.modules name bytes }
  | .other => .ok contents

def nameText (member : Tar.Member) : HostText :=
  .ofPoints (Utf8.decodeEscaped member.name)

/-- Collect the members of an archive from the next one on.  Only the data of
members that have a role is read. -/
def collect (source : String) : Nat → Contents → Tar.Reader → Except Fault Contents
  | 0, _, _ => .error (.report (unreadable source))
  | budget + 1, contents, reader =>
    match Tar.next.run reader with
    | .error _ _ => .error (.report (unreadable source))
    | .ok none _ => .ok contents
    | .ok (some member) reader =>
      let name := rooted (nameText member)
      let role := if member.kind = .regular then roleOf name else .other
      if role = .other then collect source budget contents reader
      else match (Tar.content member).run reader with
        | .error _ _ => .error (.report (unreadable source))
        | .ok bytes reader =>
          match contents.add room source role name bytes with
          | .error fault => .error fault
          | .ok contents => collect source budget contents reader

def listed (contents : Contents) (entry : ManifestEntry) : PolicyModule ⊕ Logging.Record :=
  match contents.modules.find? fun m => m.1 == .whole entry.path with
  | some (_, binary) => .inl ⟨entry.entrypoint, entry.path, binary⟩
  | none => .inr (Logging.record "bundle" .warning
      ("manifest lists " ++ entry.path ++ " but the bundle does not contain it"))

/-- The bundle that collected members make, and what is told about it. -/
def ofContents (source : String) (contents : Contents) : Bundle × List Logging.Record :=
  let entries := ((contents.manifest.map (·.modules)).getD []).map (listed contents)
  let modules := entries.filterMap Sum.getLeft?
  let told := Logging.record "bundle" .debug
    ("loaded bundle " ++ (if source.isEmpty then "<bytes>" else source) ++ ": " ++
      toString contents.sources.length ++ " rego files, " ++ toString modules.length ++
      " wasm modules")
  ({ manifest := contents.manifest, data := contents.data, sources := contents.sources, modules },
    entries.filterMap Sum.getRight? ++ [told])

def read (source : String) (archive : Bytes) : Except Fault (Bundle × List Logging.Record) :=
  match Gzip.tapeOf archive with
  | .error .foreign => .error (.report (unreadable source))
  | .error .ended => .error .badType
  | .ok tape =>
    (collect room source (tape.rest.length / Tar.blockSize + 2) {} { tape }).map
      (ofContents source)

def ofBytes (archive : Bytes) : Except Fault (Bundle × List Logging.Record) :=
  read room "" archive

/-- The bundle in a file, given what the file holds unless it cannot be
read. -/
def ofFile (path : String) (content : Option Bytes) :
    Except Fault (Bundle × List Logging.Record) :=
  let source := Path.normal path
  match content with
  | some archive => read room source archive
  | none => .error (.report (unreadable source))

/-- Whether a bundle has a data document other than null. -/
def hasData (bundle : Bundle) : Bool :=
  match bundle.data with
  | .null => false
  | _ => true

def entrypoints (bundle : Bundle) : List String :=
  bundle.modules.map (·.entrypoint)

end Bundle
end PolicyHost
