import PolicyHost.Proofs.Depth
import PolicyHost.Proofs.Packing
import PolicyHost.Proofs.Publication

namespace PolicyHost

/-!
# What a bundle is made of

Of the regular files of an archive a bundle keeps what its last manifest and
its last data document say, the text of the last file under each name of a
policy source, and of the compiled modules those that the manifest lists.  A
file that is not what its name says makes the archive unusable, and so does a
data document with more containers inside each other than there is room for.
The first such file decides how loading ends.
-/

namespace Bundle

open Json.Data (Denotes Exhausts nested)

variable {room : Nat} {source : String} {items : List Item} {item : Item} {contents : Contents}
variable {α : Type}

/-! ## Roles -/

/-- Suffixes of one length exclude each other. -/
theorem EndsIn.unique {name : HostText} {first second : String} (one : EndsIn name first)
    (two : EndsIn name second) (length : first.toList.length = second.toList.length) :
    first = second :=
  String.toList_injective ((List.suffix_of_suffix_length_le one two length.le).eq_of_length length)

theorem roleOf_manifest (name : HostText) : roleOf name = .manifest ↔ name = .whole "/.manifest" := by
  unfold roleOf
  split_ifs <;> simp [*]

theorem roleOf_data (name : HostText) : roleOf name = .data ↔ name = .whole "/data.json" := by
  unfold roleOf
  split_ifs <;> simp [*]

/-- The role of a name is told by its end unless it is one of the two that are fixed. -/
theorem roleOf_eq {name : HostText} (manifest : name ≠ .whole "/.manifest")
    (data : name ≠ .whole "/data.json") :
    roleOf name =
      if EndsIn name ".rego" then .source else if EndsIn name ".wasm" then .policy else .other := by
  rw [roleOf, if_neg manifest, if_neg data]

theorem roleOf_source (name : HostText) : roleOf name = .source ↔ EndsIn name ".rego" := by
  by_cases manifest : name = .whole "/.manifest"
  · subst manifest
    decide +kernel
  by_cases data : name = .whole "/data.json"
  · subst data
    decide +kernel
  rw [roleOf_eq manifest data]
  split_ifs <;> simp [*]

theorem roleOf_policy (name : HostText) : roleOf name = .policy ↔ EndsIn name ".wasm" := by
  by_cases manifest : name = .whole "/.manifest"
  · subst manifest
    decide +kernel
  by_cases data : name = .whole "/data.json"
  · subst data
    decide +kernel
  rw [roleOf_eq manifest data]
  split_ifs with rego wasm
  · have apart : ¬ EndsIn name ".wasm" := fun wasm =>
      absurd (rego.unique wasm rfl) (by decide)
    simp [apart]
  · simp [wasm]
  · simp [wasm]

/-! ## What items say -/

/-- The content of the last regular file with a rooted name. -/
def last? (items : List Item) (name : HostText) : Option Bytes :=
  (items.reverse.find? fun item => item.regular && rooted item.name == name).map (·.content)

theorem last?_append (items : List Item) (item : Item) (name : HostText) :
    last? (items ++ [item]) name =
      if item.regular ∧ rooted item.name = name then some item.content else last? items name := by
  unfold last?
  rw [List.reverse_append, List.reverse_singleton, List.singleton_append, List.find?_cons]
  by_cases found : item.regular ∧ rooted item.name = name
  · rw [if_pos found]
    simp [found]
  · rw [if_neg found]
    have passed : (item.regular && rooted item.name == name) = false := by simpa using found
    rw [passed]

/-- A regular file that ends the loading of its archive, and what it ends it with. -/
inductive Spoils (room : Nat) (source : String) (item : Item) : Fault → Prop
  | manifest {summary : String} (regular : item.regular)
      (name : rooted item.name = .whole "/.manifest") (invalid : ∀ m, ¬ Manifest.Says item.content m)
      (told : Manifest.read item.content = .error summary) :
      Spoils room source item (.report (Report.badBundle .bundleManifest source summary))
  | data {flaw : Json.Data.Flaw} (regular : item.regular)
      (name : rooted item.name = .whole "/data.json") (invalid : ∀ v, ¬ Denotes item.content v)
      (told : Json.Data.read room item.content = .error flaw) (shallow : flaw ≠ .exhausted) :
      Spoils room source item (.report (Report.badBundle .bundleData source flaw.text))
  | deep (regular : item.regular) (name : rooted item.name = .whole "/data.json")
      (exhausts : Exhausts room item.content) : Spoils room source item .exhausted
  | text (regular : item.regular) (name : EndsIn (rooted item.name) ".rego")
      (invalid : Utf8.decodeText item.content = none) :
      Spoils room source item (.report (Report.badBundle .bundle source archiveText))

/-- The manifest and the data of a bundle are those of the last files that say them. -/
structure Settles (items : List Item) (manifest : Option Manifest) (data : Value) : Prop where
  manifest : match last? items (.whole "/.manifest") with
    | none => manifest = none
    | some bytes => ∃ m, Manifest.Says bytes m ∧ manifest = some m
  data : match last? items (.whole "/data.json") with
    | none => data = .null
    | some bytes => Denotes bytes data

/-- A table has the last files under all names with a suffix, as they are read. -/
structure Tabulates (items : List Item) (suffix : String) (read : Bytes → Option α)
    (table : List (HostText × α)) : Prop where
  nodup : (table.map (·.1)).Nodup
  mem_iff : ∀ name a, (name, a) ∈ table ↔
    EndsIn name suffix ∧ ∃ bytes, last? items name = some bytes ∧ read bytes = some a

structure Collected (items : List Item) (contents : Contents) : Prop where
  settles : Settles items contents.manifest contents.data
  sources : Tabulates items ".rego" Utf8.decodeText contents.sources
  modules : Tabulates items ".wasm" some contents.modules

/-- The module for an entry of a manifest: the last file with its path. -/
def moduleFor (items : List Item) (entry : ManifestEntry) : Option PolicyModule :=
  if EndsIn (.whole entry.path) ".wasm" then
    (last? items (.whole entry.path)).map fun binary => ⟨entry.entrypoint, entry.path, binary⟩
  else none

/-- A bundle is what its archive's items make. -/
structure Selects (items : List Item) (bundle : Bundle) : Prop where
  settles : Settles items bundle.manifest bundle.data
  sources : Tabulates items ".rego" Utf8.decodeText bundle.sources
  modules : bundle.modules =
    ((bundle.manifest.map (·.modules)).getD []).filterMap (moduleFor items)
  precompiled : bundle.precompiled = none

/-! ## One item -/

namespace Tabulates

variable {suffix : String} {read : Bytes → Option α} {table : List (HostText × α)}

theorem nil : Tabulates [] suffix read ([] : List (HostText × α)) where
  nodup := List.nodup_nil
  mem_iff name a := by simp [last?]

/-- A file with the suffix is entered under its name. -/
theorem put (tabulates : Tabulates items suffix read table) (regular : item.regular)
    (ends : EndsIn (rooted item.name) suffix) {a : α} (known : read item.content = some a) :
    Tabulates (items ++ [item]) suffix read
      (Document.putMember table (rooted item.name) a) where
  nodup := Document.putMember_nodup _ _ _ tabulates.nodup
  mem_iff name b := by
    rw [Document.mem_putMember _ _ _ tabulates.nodup, tabulates.mem_iff, last?_append]
    by_cases same : name = rooted item.name
    · subst same
      simp [regular, ends, known, eq_comm]
    · rw [if_neg same, if_neg fun both => same both.2.symm]

/-- Any other item leaves the table. -/
theorem keep (tabulates : Tabulates items suffix read table)
    (other : ¬ (item.regular ∧ EndsIn (rooted item.name) suffix)) :
    Tabulates (items ++ [item]) suffix read table where
  nodup := tabulates.nodup
  mem_iff name b := by
    rw [tabulates.mem_iff, last?_append]
    by_cases same : item.regular ∧ rooted item.name = name
    · obtain ⟨regular, rfl⟩ := same
      have apart : ¬ EndsIn (rooted item.name) suffix := fun ends => other ⟨regular, ends⟩
      simp [apart]
    · rw [if_neg same]

end Tabulates

namespace Settles

variable {manifest : Option Manifest} {data : Value}

theorem keep (settles : Settles items manifest data)
    (noManifest : ¬ (item.regular ∧ rooted item.name = .whole "/.manifest"))
    (noData : ¬ (item.regular ∧ rooted item.name = .whole "/data.json")) :
    Settles (items ++ [item]) manifest data where
  manifest := by
    rw [last?_append, if_neg noManifest]
    exact settles.manifest
  data := by
    rw [last?_append, if_neg noData]
    exact settles.data

theorem putManifest (settles : Settles items manifest data) (regular : item.regular)
    (name : rooted item.name = .whole "/.manifest") {m : Manifest} (said : Manifest.Says item.content m) :
    Settles (items ++ [item]) (some m) data where
  manifest := by
    rw [last?_append, if_pos ⟨regular, name⟩]
    exact ⟨m, said, rfl⟩
  data := by
    rw [last?_append, if_neg fun both => absurd (name.symm.trans both.2) (by decide)]
    exact settles.data

theorem putData (settles : Settles items manifest data) (regular : item.regular)
    (name : rooted item.name = .whole "/data.json") {v : Value} (denotes : Denotes item.content v) :
    Settles (items ++ [item]) manifest v where
  manifest := by
    rw [last?_append, if_neg fun both => absurd (name.symm.trans both.2) (by decide)]
    exact settles.manifest
  data := by
    rw [last?_append, if_pos ⟨regular, name⟩]
    exact denotes

end Settles

/-- What spoils an archive, told by the role of the file. -/
theorem spoils_iff (room : Nat) (source : String) (item : Item) (fault : Fault) :
    Spoils room source item fault ↔ item.regular ∧
      match roleOf (rooted item.name) with
      | .manifest => ∃ summary, Manifest.read item.content = .error summary ∧
        fault = .report (Report.badBundle .bundleManifest source summary)
      | .data => ∃ flaw, Json.Data.read room item.content = .error flaw ∧
        fault = dataFault source flaw
      | .source => Utf8.decodeText item.content = none ∧ fault = .report (unreadable source)
      | _ => False := by
  constructor
  · rintro (⟨regular, name, _, told⟩ | ⟨regular, name, _, told, shallow⟩ |
      ⟨regular, name, exhausts⟩ | ⟨regular, name, invalid⟩)
    · rw [(roleOf_manifest _).mpr name]
      exact ⟨regular, _, told, rfl⟩
    · rw [(roleOf_data _).mpr name]
      refine ⟨regular, _, told, ?_⟩
      cases ‹Json.Data.Flaw› <;> first | rfl | exact absurd rfl shallow
    · rw [(roleOf_data _).mpr name]
      exact ⟨regular, _, exhausts, rfl⟩
    · rw [(roleOf_source _).mpr name]
      exact ⟨regular, invalid, rfl⟩
  · rintro ⟨regular, flawed⟩
    cases role : roleOf (rooted item.name) with
    | manifest =>
      rw [role] at flawed
      obtain ⟨summary, told, rfl⟩ := flawed
      refine .manifest regular ((roleOf_manifest _).mp role) (fun m said => ?_) told
      rw [← Manifest.read_ok, told] at said
      exact nomatch said
    | data =>
      rw [role] at flawed
      obtain ⟨flaw, told, rfl⟩ := flawed
      have name := (roleOf_data _).mp role
      by_cases exhausts : flaw = .exhausted
      · subst exhausts
        exact .deep regular name told
      · have nothing := ((Json.Data.read_error room item.content).mp ⟨flaw, exhausts, told⟩).1
        have spoils : Spoils room source item _ := .data regular name nothing told exhausts
        cases flaw <;> first | exact spoils | exact absurd rfl exhausts
    | source =>
      rw [role] at flawed
      obtain ⟨invalid, rfl⟩ := flawed
      exact .text regular ((roleOf_source _).mp role) invalid
    | policy =>
      rw [role] at flawed
      exact flawed.elim
    | other =>
      rw [role] at flawed
      exact flawed.elim

theorem take_error (contents : Contents) (item : Item) (fault : Fault) :
    contents.take room source item = .error fault ↔ Spoils room source item fault := by
  rw [spoils_iff]
  unfold Contents.take
  cases item.regular with
  | false => simp [Contents.add]
  | true =>
    cases roleOf (rooted item.name) with
    | manifest =>
      dsimp only [Contents.add, if_true]
      cases Manifest.read item.content <;> simp [eq_comm]
    | data =>
      dsimp only [Contents.add, if_true, dataOf]
      cases Json.Data.read room item.content <;> simp [Except.mapError, eq_comm]
    | source =>
      dsimp only [Contents.add, if_true]
      cases Utf8.decodeText item.content <;> simp [eq_comm]
    | policy => simp [Contents.add]
    | other => simp [Contents.add]

theorem Collected.take {more : Contents} (collected : Collected items contents)
    (taken : contents.take room source item = .ok more) : Collected (items ++ [item]) more := by
  unfold Contents.take at taken
  by_cases regular : item.regular
  swap
  · rw [if_neg regular] at taken
    cases taken
    exact ⟨collected.settles.keep (fun both => regular both.1) fun both => regular both.1,
      collected.sources.keep fun both => regular both.1,
      collected.modules.keep fun both => regular both.1⟩
  rw [if_pos regular] at taken
  have manifest : rooted item.name = .whole "/.manifest" → _ := (roleOf_manifest _).mpr
  have data : rooted item.name = .whole "/data.json" → _ := (roleOf_data _).mpr
  have text : EndsIn (rooted item.name) ".rego" → _ := (roleOf_source _).mpr
  have binary : EndsIn (rooted item.name) ".wasm" → _ := (roleOf_policy _).mpr
  cases role : roleOf (rooted item.name) with
  | manifest =>
    rw [role] at taken data text binary
    dsimp only [Contents.add] at taken
    cases told : Manifest.read item.content with
    | error summary =>
      rw [told] at taken
      cases taken
    | ok m =>
      rw [told] at taken
      cases taken
      exact ⟨collected.settles.putManifest regular ((roleOf_manifest _).mp role)
          ((Manifest.read_ok _ _).mp told),
        collected.sources.keep fun both => (nomatch text both.2),
        collected.modules.keep fun both => (nomatch binary both.2)⟩
  | data =>
    rw [role] at taken manifest text binary
    dsimp only [Contents.add, dataOf] at taken
    cases read : Json.Data.read room item.content with
    | error flaw =>
      rw [read] at taken
      cases taken
    | ok v =>
      rw [read] at taken
      cases taken
      have denotes := ((Json.Data.read_ok room item.content v).mp read).1
      exact ⟨collected.settles.putData regular ((roleOf_data _).mp role) denotes,
        collected.sources.keep fun both => (nomatch text both.2),
        collected.modules.keep fun both => (nomatch binary both.2)⟩
  | source =>
    rw [role] at taken manifest data binary
    dsimp only [Contents.add] at taken
    cases decoded : Utf8.decodeText item.content with
    | none =>
      rw [decoded] at taken
      cases taken
    | some s =>
      rw [decoded] at taken
      cases taken
      exact ⟨collected.settles.keep (fun both => (nomatch manifest both.2))
          fun both => (nomatch data both.2),
        collected.sources.put regular ((roleOf_source _).mp role) decoded,
        collected.modules.keep fun both => (nomatch binary both.2)⟩
  | policy =>
    rw [role] at taken manifest data text
    cases taken
    exact ⟨collected.settles.keep (fun both => (nomatch manifest both.2))
        fun both => (nomatch data both.2),
      collected.sources.keep fun both => (nomatch text both.2),
      collected.modules.put regular ((roleOf_policy _).mp role) rfl⟩
  | other =>
    rw [role] at taken manifest data text binary
    cases taken
    exact ⟨collected.settles.keep (fun both => (nomatch manifest both.2))
        fun both => (nomatch data both.2),
      collected.sources.keep fun both => (nomatch text both.2),
      collected.modules.keep fun both => (nomatch binary both.2)⟩

/-! ## All items -/

theorem Collected.nil : Collected [] {} where
  settles := ⟨rfl, rfl⟩
  sources := .nil
  modules := .nil

theorem Collected.run {before : List Item} {made : Contents} (collected : Collected before contents)
    (ran : items.foldlM (Contents.take room source) contents = .ok made) :
    Collected (before ++ items) made := by
  induction items generalizing before contents with
  | nil =>
    cases ran
    rwa [List.append_nil]
  | cons item rest inductionHypothesis =>
    rw [List.foldlM_cons] at ran
    cases taken : contents.take room source item with
    | error report =>
      rw [taken] at ran
      cases ran
    | ok more =>
      rw [taken] at ran
      have := inductionHypothesis (collected.take taken) ran
      rwa [List.append_assoc, List.singleton_append] at this

/-- The first item that spoils the archive decides how loading ends. -/
theorem run_error (contents : Contents) (fault : Fault) :
    items.foldlM (Contents.take room source) contents = .error fault ↔
      ∃ first item later, items = first ++ item :: later ∧
        (∀ earlier ∈ first, ∀ other, ¬ Spoils room source earlier other) ∧
        Spoils room source item fault := by
  -- The contents grow with every sound item, so they are general in the induction.
  induction items generalizing contents with
  | nil =>
    constructor
    · rintro impossible
      exact nomatch impossible
    · rintro ⟨first, item, later, same, _⟩
      exact absurd same.symm (by simp)
  | cons item rest inductionHypothesis =>
    rw [List.foldlM_cons]
    cases taken : contents.take room source item with
    | error found =>
      have spoils := (take_error contents item found).mp taken
      constructor
      · rintro same
        cases same
        exact ⟨[], item, rest, rfl, List.forall_mem_nil _, spoils⟩
      · rintro ⟨first, other, later, same, sound, told⟩
        cases first with
        | nil =>
          cases same
          rw [← take_error contents, taken] at told
          exact told
        | cons head first =>
          cases same
          exact absurd spoils (sound item List.mem_cons_self found)
    | ok more =>
      have sound : ∀ other, ¬ Spoils room source item other := fun other spoils => by
        rw [← take_error contents, taken] at spoils
        exact nomatch spoils
      refine (inductionHypothesis more).trans ⟨?_, ?_⟩
      · rintro ⟨first, bad, later, rfl, others, told⟩
        refine ⟨item :: first, bad, later, rfl, ?_, told⟩
        rintro earlier (_ | ⟨_, member⟩)
        · exact sound
        · exact others earlier member
      · rintro ⟨first, bad, later, same, others, told⟩
        cases first with
        | nil =>
          cases same
          exact absurd told (sound fault)
        | cons head first =>
          cases same
          exact ⟨first, bad, later, rfl,
            fun earlier member => others earlier (List.mem_cons_of_mem _ member), told⟩

theorem run_sound {made : Contents} (ran : items.foldlM (Contents.take room source) contents = .ok made) :
    ∀ item ∈ items, ∀ fault, ¬ Spoils room source item fault := by
  induction items generalizing contents with
  | nil => exact List.forall_mem_nil _
  | cons item rest inductionHypothesis =>
    rw [List.foldlM_cons] at ran
    cases taken : contents.take room source item with
    | error fault =>
      rw [taken] at ran
      cases ran
    | ok more =>
      rw [taken] at ran
      refine List.forall_mem_cons.mpr ⟨fun fault spoils => ?_, inductionHypothesis ran⟩
      rw [← take_error contents, taken] at spoils
      exact nomatch spoils

/-! ## The bundle -/

/-- A table has the last file under a path, if there is one. -/
theorem Tabulates.find?_eq {modules : List (HostText × Bytes)}
    (tabulates : Tabulates items ".wasm" some modules) (path : HostText) :
    (modules.find? fun m => m.1 == path) =
      if EndsIn path ".wasm" then (last? items path).map (path, ·) else none := by
  cases found : modules.find? fun m => m.1 == path with
  | none =>
    split_ifs with ends
    · cases last : last? items path with
      | none => rfl
      | some bytes =>
        have entered := (tabulates.mem_iff path bytes).mpr ⟨ends, bytes, last, rfl⟩
        exact absurd (beq_self_eq_true path) (List.find?_eq_none.mp found _ entered)
    · rfl
  | some m =>
    obtain ⟨name, binary⟩ := m
    obtain rfl : name = path := by simpa using List.find?_some found
    obtain ⟨ends, bytes, last, same⟩ :=
      (tabulates.mem_iff name binary).mp (List.mem_of_find?_eq_some found)
    rw [if_pos ends, last, Option.map_some, Option.some.inj same]

theorem Collected.selects (source : String) (collected : Collected items contents) :
    Selects items (ofContents source contents).1 where
  settles := collected.settles
  sources := collected.sources
  modules := by
    dsimp only [ofContents]
    rw [List.filterMap_map]
    congr 1
    funext entry
    unfold listed moduleFor
    rw [Function.comp_apply, collected.modules.find?_eq]
    split_ifs
    · cases last? items (.whole entry.path) <;> rfl
    · rfl
  precompiled := rfl

/-- A bundle that was read is the selection from its archive. -/
theorem Archives.selects {archive : Bytes} {bundle : Bundle} {told : List Logging.Record}
    (archives : Archives archive items) (made : read room source archive = .ok (bundle, told)) :
    Selects items bundle := by
  rw [read_archives source archives] at made
  cases ran : items.foldlM (Contents.take room source) {} with
  | error fault =>
    rw [ran] at made
    cases made
  | ok contents =>
    rw [ran] at made
    cases made
    exact (Collected.nil.run ran).selects source

/-- Of an archive that can be read to its end, a bundle is exactly the selection, and loading
fails exactly if a file spoils it, where the first such file decides. -/
theorem read_selects (room : Nat) (source : String) (archive : Bytes) (items : List Item)
    (archives : Archives archive items) :
    (∀ bundle told, read room source archive = .ok (bundle, told) → Selects items bundle) ∧
    ((∃ fault, read room source archive = .error fault) ↔
      ∃ item ∈ items, ∃ fault, Spoils room source item fault) ∧
    (∀ fault, read room source archive = .error fault ↔
      ∃ first item later, items = first ++ item :: later ∧
        (∀ earlier ∈ first, ∀ other, ¬ Spoils room source earlier other) ∧
        Spoils room source item fault) := by
  refine ⟨fun bundle told => archives.selects, ?_⟩
  have made : ∀ fault, read room source archive = .error fault ↔
      items.foldlM (Contents.take room source) {} = .error fault := fun fault => by
    rw [read_archives source archives]
    cases items.foldlM (Contents.take room source) {} <;> simp [Except.map]
  have decided : ∀ fault, items.foldlM (Contents.take room source) {} = .error fault ↔ _ :=
    run_error {}
  refine ⟨⟨?_, ?_⟩, fun fault => (made fault).trans (decided fault)⟩
  · rintro ⟨fault, failed⟩
    obtain ⟨first, item, later, rfl, _, spoils⟩ := (decided fault).mp ((made fault).mp failed)
    exact ⟨item, by simp, fault, spoils⟩
  · rintro ⟨item, member, fault, spoils⟩
    cases ran : items.foldlM (Contents.take room source) {} with
    | error other => exact ⟨other, (made other).mpr ran⟩
    | ok contents => exact absurd spoils (run_sound ran item member fault)

/-- An archive of a data document only. -/
def archived (document : Bytes) : List Item :=
  [⟨.whole "data.json", true, document⟩]

theorem archived_fit {document : Bytes} (small : document.length < 256 ^ 11) :
    ∀ item ∈ archived document, item.Fits := by
  have plain : 0 ∉ (HostText.whole "data.json").points := by decide
  have short : ((HostText.whole "data.json").utf8?.getD []).length < 256 ^ 11 := by decide +kernel
  exact List.forall_mem_singleton.mpr ⟨rfl, plain, short, small⟩

theorem read_archived {document : Bytes} (small : document.length < 256 ^ 11)
    (exhausts : Exhausts room document) :
    read room source (archiveOf (archived document)) = .error .exhausted := by
  have name : rooted (.whole "data.json") = .whole "/data.json" := by decide +kernel
  have spoils : Spoils room source ⟨.whole "data.json", true, document⟩ .exhausted :=
    .deep rfl name exhausts
  rw [read_archives source (archives_archiveOf _ (archived_fit small)), archived, List.foldlM_cons,
    (take_error {} _ _).mpr spoils]
  rfl

/-- A data document may be JSON, and yet loading ends with a fault that is no report. -/
theorem deep_unread :
    Archives (archiveOf (archived (nested 971))) (archived (nested 971)) ∧
      (∃ v, Denotes (nested 971) v) ∧
      read Json.Data.standardRoom "" (archiveOf (archived (nested 971))) = .error .exhausted := by
  have small : (nested 971).length < 256 ^ 11 := by
    rw [Json.Data.nested_eq, List.length_append, List.length_replicate, List.length_replicate]
    decide
  exact ⟨archives_archiveOf _ (archived_fit small), Json.Data.denotes_nested 970,
    read_archived small (Json.Data.exhausts_nested 970)⟩

/-- A module stands before and after the manifest that lists it, under two spellings of its
name. -/
def shadowed : List Item :=
  [⟨.whole "policy.wasm", true, [0x00]⟩,
    ⟨.whole "./.manifest", true,
      Utf8.encode "\x7b\"wasm\":[\x7b\"entrypoint\":\"p/q\",\"module\":\"policy.wasm\"\x7d]\x7d"⟩,
    ⟨.whole "/policy.wasm", true, [0x01]⟩, ⟨.whole "p", false, []⟩,
    ⟨.whole "p/q.REGO", true, Utf8.encode "package p"⟩]

theorem shadowed_fit : ∀ item ∈ shadowed, item.Fits := by
  simp only [shadowed, List.forall_mem_cons]
  refine ⟨⟨?_, ?_, ?_, ?_⟩, ⟨?_, ?_, ?_, ?_⟩, ⟨?_, ?_, ?_, ?_⟩, ⟨?_, ?_, ?_, ?_⟩,
    ⟨?_, ?_, ?_, ?_⟩, List.forall_mem_nil _⟩ <;> decide +kernel

theorem read_selects_shadowed :
    ∃ bundle told, read Json.Data.standardRoom "" (archiveOf shadowed) = .ok (bundle, told) ∧ Selects shadowed bundle ∧
      bundle.modules = [⟨"p/q", "/policy.wasm", [0x01]⟩] ∧
      bundle.sources = [(.whole "/p/q.REGO", "package p")] := by
  have archives := archives_archiveOf shadowed shadowed_fit
  obtain ⟨selects, _, _⟩ := read_selects Json.Data.standardRoom "" (archiveOf shadowed) shadowed archives
  have made : read Json.Data.standardRoom "" (archiveOf shadowed) = _ := read_archives "" archives
  have evaluated : (shadowed.foldlM (Contents.take Json.Data.standardRoom "") {}).toOption.map
      (fun contents => ((ofContents "" contents).1.modules, (ofContents "" contents).1.sources)) =
        some ([⟨"p/q", "/policy.wasm", [0x01]⟩], [(.whole "/p/q.REGO", "package p")]) := by
    decide +kernel
  cases ran : shadowed.foldlM (Contents.take Json.Data.standardRoom "") {} with
  | error fault =>
    rw [ran] at evaluated
    cases evaluated
  | ok contents =>
    rw [ran] at made evaluated
    obtain ⟨modules, sources⟩ := Prod.mk.inj (Option.some.inj evaluated)
    exact ⟨_, _, made, selects _ _ made, modules, sources⟩

end Bundle
end PolicyHost
