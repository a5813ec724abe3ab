import Mathlib.Data.List.TakeWhile
import PolicyHost.Command
import PolicyHost.Guest.Engine
import PolicyHost.Proofs.Replacement
import PolicyHost.Proofs.Selection

namespace PolicyHost
namespace Command

/-!
# Where a command takes the dataset from

An evaluation is given its dataset in a file, or finds it in the bundle, or has
an empty one.  A document that says null is taken as none at all: a file that
says null leaves the choice to the bundle, and if the bundle says null too, the
dataset is empty.  Nor does a bundle have data, to those who look at it, if its
data document says null.
-/

open PolicyHost.Bundle
open Json.Data (Means Denotes)

variable {σ : Type} {around : Surroundings}

/-! ## Documents -/

/-- The document that a file holds, if there is a file. -/
def Given : Option File → Option Value → Prop
  | none, given => given = none
  | some file, given => ∃ v chars, given = some v ∧ Utf8.decode file.content = some chars ∧
      Means (chars.map Char.toNat) v

/-- The data document among the items of an archive, if there is one. -/
def Holds (items : List Item) (held : Option Value) : Prop :=
  match last? items (.whole "/data.json") with
  | none => held = none
  | some bytes => ∃ v, held = some v ∧ Denotes bytes v

theorem Given.unique {file : Option File} {one other : Option Value} (first : Given file one)
    (second : Given file other) : one = other := by
  cases file with
  | none => exact first.trans second.symm
  | some file =>
    obtain ⟨v, chars, rfl, decoded, means⟩ := first
    obtain ⟨w, others, rfl, same, alike⟩ := second
    cases decoded.symm.trans same
    rw [means.unique alike]

theorem Holds.unique {items : List Item} {one other : Option Value} (first : Holds items one)
    (second : Holds items other) : one = other := by
  unfold Holds at first second
  split at first
  · rename_i absent
    rw [absent] at second
    exact first.trans second.symm
  · rename_i there
    rw [there] at second
    obtain ⟨v, rfl, denotes⟩ := first
    obtain ⟨w, rfl, alike⟩ := second
    rw [denotes.unique alike]

/-- There is no document, or it says null. -/
def Silent (found : Option Value) : Prop :=
  found.getD .null = .null

/-- The dataset of an evaluation, for the document in the data file and the one in the
bundle. -/
inductive Chosen (given held : Option Value) : Value → Prop
  | given {v : Value} (there : given = some v) (other : v ≠ .null) : Chosen given held v
  | held {v : Value} (silent : Silent given) (there : held = some v) (other : v ≠ .null) :
      Chosen given held v
  | empty (silent : Silent given) (nothing : Silent held) : Chosen given held (.mapping [])

theorem readDocument_given {json : Bool} {label : String} {file : Option File} {v : Value}
    (read : readDocument around json label file none = .ok v) :
    ∃ given, Given file given ∧ v = given.getD .null := by
  cases file with
  | none =>
    cases read
    exact ⟨none, rfl, rfl⟩
  | some file =>
    unfold readDocument readJson at read
    dsimp only at read
    cases decoded : Utf8.decode file.content with
    | none =>
      rw [decoded] at read
      cases read
    | some chars =>
      rw [decoded] at read
      dsimp only at read
      cases means : Json.Data.readText around.given chars with
      | error flaw =>
        rw [means] at read
        cases read
      | ok w =>
        rw [means] at read
        cases read
        exact ⟨some v, ⟨v, chars, rfl, decoded, around.given, means⟩, rfl⟩

theorem holds {items : List Item} {bundle : Bundle} (selects : Selects items bundle) :
    ∃ held, Holds items held ∧ bundle.data = held.getD .null := by
  have data := selects.settles.data
  unfold Holds
  cases last : last? items (.whole "/data.json") with
  | none =>
    rw [last] at data
    exact ⟨none, rfl, data⟩
  | some bytes =>
    rw [last] at data
    exact ⟨some bundle.data, ⟨_, rfl, data⟩, rfl⟩

theorem read_of_readBundle {file : File} {bundle : Bundle}
    (unpacked : readBundle around file = .ok bundle) :
    ∃ told, read around.bundled (Path.normal file.path) file.content = .ok (bundle, told) := by
  unfold readBundle ofFile at unpacked
  dsimp only at unpacked
  cases made : read around.bundled (Path.normal file.path) file.content with
  | error fault =>
    rw [made] at unpacked
    exact nomatch unpacked
  | ok found =>
    rw [made] at unpacked
    cases unpacked
    exact ⟨found.2, rfl⟩

theorem dataset_of_ne (v : Value) (bundle : Bundle) (other : v ≠ .null) : dataset v bundle = v := by
  unfold dataset
  split
  · exact absurd rfl other
  · exact absurd rfl other
  · rfl

theorem dataset_null_of_ne (bundle : Bundle) (other : bundle.data ≠ .null) :
    dataset .null bundle = bundle.data := by
  unfold dataset
  split
  · rename_i same
    exact absurd same other
  · rfl
  · rename_i apart _
    exact absurd rfl apart

theorem dataset_null_of_null (bundle : Bundle) (same : bundle.data = .null) :
    dataset .null bundle = .mapping [] := by
  unfold dataset
  rw [same]

/-- A document that does not say null is there. -/
theorem silent_or (found : Option Value) : Silent found ∨ ∃ v, found = some v ∧ v ≠ .null := by
  cases found with
  | none => exact Or.inl rfl
  | some v =>
    by_cases null : v = .null
    · exact Or.inl null
    · exact Or.inr ⟨v, rfl, null⟩

theorem dataset_chosen (given : Option Value) {held : Option Value} {bundle : Bundle}
    (data : bundle.data = held.getD .null) :
    Chosen given held (dataset (given.getD .null) bundle) := by
  obtain silent | ⟨v, rfl, other⟩ := silent_or given
  · rw [silent]
    obtain nothing | ⟨v, rfl, other⟩ := silent_or held
    · rw [dataset_null_of_null bundle (data.trans nothing)]
      exact .empty silent nothing
    · rw [dataset_null_of_ne bundle (by rwa [data]), data]
      exact .held silent rfl other
  · rw [Option.getD_some, dataset_of_ne v bundle other]
    exact .given rfl other

/-! ## Command lines -/

/-- A command line asks for an evaluation.  The last of the data files that it names counts,
and has to be there. -/
structure Asks (folder : Folder) (arguments : List String) (e : Evaluation) : Prop where
  run_eq : ∀ (around : Surroundings) (engine : Engine σ),
    run around engine folder arguments = eval around engine e
  dataFile : ∃ rest parsed, Options.parse commonOptions false arguments =
      .ok { others := "eval" :: rest } ∧ Options.parse evalOptions true rest = .ok parsed ∧
    e.dataFile = (parsed.value? "data").bind folder.file? ∧
    ((parsed.value? "data").isSome → e.dataFile.isSome)

theorem findOption_ok {folder : Folder} {parsed : Options.Parsed} {key : String} {file : Option File}
    (found : findOption folder parsed key = .ok file) :
    file = (parsed.value? key).bind folder.file? ∧ ((parsed.value? key).isSome → file.isSome) := by
  unfold findOption at found
  cases named : parsed.value? key with
  | none =>
    rw [named] at found
    cases found
    exact ⟨rfl, nofun⟩
  | some path =>
    rw [named] at found
    unfold findFile at found
    dsimp only at found
    cases there : folder.file? path with
    | none =>
      rw [there] at found
      exact nomatch found
    | some f =>
      rw [there] at found
      cases found
      exact ⟨there.symm, fun _ => rfl⟩

theorem bind_ok {ε α β : Type} (a : α) (next : α → Except ε β) : (.ok a >>= next) = next a := rfl

/-- What comes after a step that was taken. -/
theorem ok_of_bind {ε α β : Type} {first : Except ε α} {next : α → Except ε β} {b : β}
    (ended : (first >>= next) = .ok b) : ∃ a, first = .ok a ∧ next a = .ok b := by
  cases first with
  | error _ => exact nomatch ended
  | ok a => exact ⟨a, rfl, ended⟩

theorem readEval_ok {folder : Folder} {rest : List String} {e : Evaluation}
    (asked : readEval folder rest = .ok (.eval e)) :
    ∃ parsed, Options.parse evalOptions true rest = .ok parsed ∧
      findOption folder parsed "data" = .ok e.dataFile := by
  obtain ⟨parsed, read, asked⟩ := ok_of_bind asked
  refine ⟨parsed, read, ?_⟩
  split at asked
  · exact nomatch asked
  · split at asked
    · exact nomatch asked
    · exact nomatch asked
    · obtain ⟨_, _, asked⟩ := ok_of_bind asked
      obtain ⟨_, _, asked⟩ := ok_of_bind asked
      obtain ⟨_, found, asked⟩ := ok_of_bind asked
      obtain ⟨_, _, asked⟩ := ok_of_bind asked
      cases asked
      exact found
    · exact nomatch asked

/-- A command that only looks at a bundle is no evaluation. -/
theorem readView_ok {folder : Folder} {make : File → Bool → Request} {rest : List String}
    {request : Request} (asked : readView folder make rest = .ok request) :
    request = .help ∨ ∃ file json, request = make file json := by
  obtain ⟨parsed, read, asked⟩ := ok_of_bind asked
  split at asked
  · cases asked
    exact Or.inl rfl
  · split at asked
    · exact nomatch asked
    · obtain ⟨_, _, asked⟩ := ok_of_bind asked
      cases asked
      exact Or.inr ⟨_, _, rfl⟩
    · exact nomatch asked

theorem asks {folder : Folder} {arguments : List String} {e : Evaluation}
    (asked : Request.read folder arguments = .ok (.eval e)) :
    Asks (σ := σ) folder arguments e := by
  refine ⟨fun around engine => by unfold run; rw [asked]; rfl, ?_⟩
  obtain ⟨⟨options, others⟩, parsed, asked⟩ := ok_of_bind asked
  dsimp only at asked
  split at asked
  · exact nomatch asked
  · exact nomatch asked
  · exact nomatch asked
  · obtain impossible | ⟨_, _, impossible⟩ := readView_ok asked <;> exact nomatch impossible
  · rename_i rest
    obtain ⟨found, read, named⟩ := readEval_ok asked
    obtain ⟨same, there⟩ := findOption_ok named
    exact ⟨rest, found, parsed, read, same, there⟩
  · obtain impossible | ⟨_, _, impossible⟩ := readView_ok asked <;> exact nomatch impossible
  · exact nomatch asked

/-! ## Evaluations -/

/-- An evaluation has its documents, its bundle, and a host for it. -/
structure Prepared (around : Surroundings) (engine : Engine σ) (e : Evaluation) (input : Value)
    (level : Option Logging.Level) (bundle : Bundle) (host : Host σ) : Prop where
  oneInput : ¬ (e.inputFile.isSome ∧ e.inputText.isSome)
  input : readDocument around e.json "input" e.inputFile e.inputText = .ok input
  data : ∃ v, readDocument around e.json "data" e.dataFile none = .ok v
  unpacked : readBundle around e.bundle = .ok bundle
  built : ∃ builder, configured around e.configFile = .ok (builder, level) ∧
    buildHost engine builder bundle = .ok host

/-- A dataset is installed in a host, and if that succeeds, an entrypoint is evaluated, for
which the policy is given what the guest made of the dataset. -/
inductive Proceeds (e : Evaluation) (input v : Value) (host : Host σ) : Except Fault Value → Prop
  | refused {fault : Fault} {after : Host σ} (failed : Host.setData v host = .error fault after) :
      Proceeds e input v host (.error fault)
  | evaluated {raw : Bytes} {document : Address} {middle : Host σ}
      (installed : Host.setData v host = .ok () middle) (encoded : Payload.encode v = .ok raw)
      (loads : Instance.Loads raw document host.guest middle.guest)
      (dataset : middle.dataset = some document)
      (takes : Instance.Adds (Access.Takes document) middle.guest
        (Operation.outcome (Host.eval e.entrypoint input .any) middle).2.guest) :
      Proceeds e input v host (Operation.outcome (Host.eval e.entrypoint input .any) middle).1

/-- What an evaluation ends with, given what it came to. -/
def concluding (around : Surroundings) (e : Evaluation) (configured : Option Logging.Level) :
    Except Fault Value → Outcome
  | .error fault => { Outcome.ofFault around.terminal fault e.json e.debug with
      level := (if e.debug then some .debug else none).or configured }
  | .ok value => { printResult around e value with
      level := (if e.debug then some .debug else none).or configured }

/-- What an evaluation comes to in a host that is given a dataset. -/
def evaluated (e : Evaluation) (input v : Value) (host : Host σ) : Except Fault Value :=
  (Operation.outcome (Host.setData v >>= fun _ => Host.eval e.entrypoint input .any) host).1

theorem evaluated_proceeds (e : Evaluation) (input v : Value) (host : Host σ) :
    Proceeds e input v host (evaluated e input v host) := by
  unfold evaluated
  cases first : Host.setData v host with
  | error fault after =>
    rw [Operation.outcome_of_error (Operation.bind_of_error first)]
    exact .refused first
  | ok nothing middle =>
    have done : Host.perform (.setData v) host = .ok .done middle := Operation.bind_of_ok first
    obtain ⟨raw, document, begins, loads, dataset⟩ := (Host.setData_cases host v).of_ok done
    have taken := (Host.perform_takes dataset (.eval e.entrypoint input .any) nofun).2
    unfold Host.perform at taken
    rw [Operation.outcome_return] at taken
    have same : Operation.outcome (Host.setData v >>= fun _ => Host.eval e.entrypoint input .any)
        host = Operation.outcome (Host.eval e.entrypoint input .any) middle := by
      unfold Operation.outcome
      rw [Operation.bind_of_ok first]
    rw [same]
    exact .evaluated first begins.encoded loads dataset taken

theorem eval_eq {engine : Engine σ} {e : Evaluation} {input v : Value}
    {level : Option Logging.Level} {bundle : Bundle} {host : Host σ}
    (prepared : Prepared around engine e input level bundle host)
    (read : readDocument around e.json "data" e.dataFile none = .ok v) :
    eval around engine e =
      concluding around e level (evaluated e input (dataset v bundle) host) := by
  obtain ⟨builder, configured, built⟩ := prepared.built
  have one : (e.inputFile.isSome && e.inputText.isSome) = false := by
    simpa using prepared.oneInput
  have resulted : result around engine builder e input v =
      evaluated e input (dataset v bundle) host := by
    unfold result evaluated Operation.outcome
    rw [prepared.unpacked, bind_ok, built, bind_ok]
    dsimp only
    cases (Host.setData (dataset v bundle) >>= fun _ =>
      Host.eval e.entrypoint input .any : Operation (Host σ) Value) host <;> rfl
  unfold eval
  rw [one, prepared.input, read, configured]
  dsimp only
  rw [resulted]
  cases evaluated e input (dataset v bundle) host <;> rfl

/-! ## Inspection -/

theorem hasData_iff {bundle : Bundle} {held : Option Value} (data : bundle.data = held.getD .null) :
    bundle.hasData = true ↔ ¬ Silent held := by
  unfold Silent hasData
  rw [← data]
  cases bundle.data <;> simp

/-- A command prints a record, which has a field. -/
def Prints (around : Surroundings) (outcome : Outcome) (name : String) (v : Value) : Prop :=
  ∃ fields, outcome = .printingJson around.terminal 0 (Value.object fields) ∧
    (fields.map (·.1)).Nodup ∧ (name, v) ∈ fields

theorem inspect_prints {file : File} {bundle : Bundle}
    (unpacked : readBundle around file = .ok bundle) :
    Prints around (inspect around file true) "has_data" (.bool bundle.hasData) := by
  unfold inspect
  rw [unpacked]
  dsimp only
  rw [if_pos rfl, bundleDocument]
  refine ⟨_, rfl, ?_, ?_⟩
  · simp only [List.map_cons, List.map_nil]
    decide
  · simp only [List.mem_cons, true_or, or_true]

/-! ## A null and a number -/

/-- A bundle with the standard policy, whose data document is a number. -/
def numbered : List Item :=
  [⟨.whole "/.manifest", true,
      Utf8.encode "\x7b\"wasm\":[\x7b\"entrypoint\":\"echo/data\",\"module\":\"policy.wasm\"\x7d]\x7d"⟩,
    ⟨.whole "/policy.wasm", true, Image.binaryHeader ++ Utf8.encode "\x7b\x7d"⟩,
    ⟨.whole "/data.json", true, Utf8.encode "1"⟩]

/-- A folder with that bundle, and a data file that says null. -/
def desk : Folder where
  path := "/"
  files := [⟨"/b", archiveOf numbered⟩, ⟨"/d", Utf8.encode "null"⟩]

/-- An evaluation that is given the null. -/
def asking : Evaluation where
  bundle := ⟨"/b", archiveOf numbered⟩
  entrypoint := "echo/data"
  dataFile := some ⟨"/d", Utf8.encode "null"⟩

def words : List String := ["eval", "b", "echo/data", "--data", "d"]

theorem steps_slash : Path.steps "/" = [] := by
  have split : String.splitOn "/" "/" = ["", ""] := by
    rw [String.splitOn, if_neg (by decide), String.splitOnAux, if_neg (by decide +kernel),
      if_pos (by decide +kernel)]
    dsimp only
    rw [if_pos (by decide +kernel), String.splitOnAux]
    decide +kernel
  unfold Path.steps
  rw [split]
  decide

/-- The path of what is named in the root by a single step. -/
theorem resolve_step {name : String} (relative : ¬ name.startsWith "/" = true)
    (split : name.splitOn "/" = [name]) (leads : (!name.isEmpty && name != ".") = true)
    (on : name ≠ "..") : Path.resolve "/" name = "/" ++ name := by
  have steps : Path.steps name = [name] := by
    unfold Path.steps
    rw [split]
    exact List.filter_cons_of_pos leads
  have followed : Path.follow [] [name] = [name] := if_neg on
  unfold Path.resolve
  rw [if_neg relative, steps_slash, steps, followed]
  rfl

theorem resolve_b : Path.resolve "/" "b" = "/b" := by
  have split : String.splitOn "b" "/" = ["b"] := by
    rw [String.splitOn, if_neg (by decide), String.splitOnAux, String.splitOnAux]
    decide +kernel
  exact resolve_step (by simp) split (by decide) (by decide)

theorem desk_bundle : desk.file? "b" = some ⟨"/b", archiveOf numbered⟩ := by
  unfold Folder.file? desk
  rw [resolve_b]
  rfl

theorem desk_data : desk.file? "d" = some ⟨"/d", Utf8.encode "null"⟩ := by
  have split : String.splitOn "d" "/" = ["d"] := by
    rw [String.splitOn, if_neg (by decide), String.splitOnAux, String.splitOnAux]
    decide +kernel
  unfold Folder.file? desk
  rw [resolve_step (by simp) split (by decide) (by decide)]
  rfl

theorem readLong?_known {specs : List Options.Spec} {name : String} {spec : Options.Spec}
    (long : name.startsWith "--" = true) (known : Options.find? specs name = some spec) :
    Options.readLong? specs name none = some (.ok
      (if spec.takesValue then .pending [] spec.key name else .complete [(spec.key, none)])) := by
  unfold Options.readLong?
  rw [if_pos long, known]
  cases takes : spec.takesValue <;> simp [takes]

theorem read_long {specs : List Options.Spec} {argument : String}
    {outcome : Except Options.Misuse Options.Reading} (c : Char) (rest : List Char)
    (chars : argument.toList = '-' :: '-' :: c :: rest)
    (bare : argument.toList.all (· != '=') = true)
    (known : Options.readLong? specs argument none = some outcome) :
    Options.read specs argument = outcome := by
  have whole : argument.toList.takeWhile (· != '=') = argument.toList :=
    List.takeWhile_eq_self_iff.mpr (List.all_eq_true.mp bare)
  have nothing : argument.toList.dropWhile (· != '=') = [] :=
    List.dropWhile_eq_nil_iff.mpr (List.all_eq_true.mp bare)
  rw [chars] at whole nothing
  have named : String.ofList ('-' :: '-' :: c :: rest) = argument := by
    rw [← chars, String.ofList_toList]
  unfold Options.read
  rw [chars]
  split
  · rename_i alone
    cases alone
  · rename_i same
    cases same
    dsimp only
    rw [whole, nothing, named]
    dsimp only
    rw [known]
  · rename_i other
    exact absurd rfl (other _ _)

theorem parse_words : Options.parse evalOptions true ["b", "echo/data", "--data", "d"] =
    .ok { given := [("data", some "d")], others := ["b", "echo/data"] } := by
  have read : Options.read evalOptions "--data" = .ok (.pending [] "data" "--data") :=
    read_long 'd' ['a', 't', 'a'] rfl rfl
      (@readLong?_known evalOptions "--data" _ (by simp) rfl)
  unfold Options.parse Options.parseFrom
  rw [show Options.read evalOptions "b" = .ok .other from rfl]
  dsimp only
  unfold Options.parseFrom
  rw [show Options.read evalOptions "echo/data" = .ok .other from rfl]
  dsimp only
  unfold Options.parseFrom
  rw [read]
  rfl

theorem parse_view : Options.parse viewOptions true ["b", "--json"] =
    .ok { given := [("json", none)], others := ["b"] } := by
  have read : Options.read viewOptions "--json" = .ok (.complete [("json", none)]) :=
    read_long 'j' ['s', 'o', 'n'] rfl rfl
      (@readLong?_known viewOptions "--json" _ (by simp) rfl)
  unfold Options.parse Options.parseFrom
  rw [show Options.read viewOptions "b" = .ok .other from rfl]
  dsimp only
  unfold Options.parseFrom
  rw [read]
  rfl

/-- A look at the bundle. -/
theorem view_asks {folder : Folder} {file : File} (there : folder.file? "b" = some file) :
    Request.read folder ["inspect", "b", "--json"] = .ok (.inspect file true) := by
  have read : Options.parse commonOptions false ["inspect", "b", "--json"] =
    .ok { others := ["inspect", "b", "--json"] } := rfl
  unfold Request.read
  rw [read]
  change readView folder .inspect ["b", "--json"] = _
  unfold readView
  rw [parse_view]
  change (do return Request.inspect (← findFile folder "b") true) = _
  unfold findFile
  rw [there]
  rfl

theorem words_ask : Request.read desk words = .ok (.eval asking) := by
  let parsed : Options.Parsed := { given := [("data", some "d")], others := ["b", "echo/data"] }
  have bundle : findFile desk "b" = .ok ⟨"/b", archiveOf numbered⟩ := by
    unfold findFile
    rw [desk_bundle]
  have data : findOption desk parsed "data" = .ok (some ⟨"/d", Utf8.encode "null"⟩) := by
    change (findFile desk "d").map some = _
    unfold findFile
    rw [desk_data]
    rfl
  have read : Options.parse commonOptions false words = .ok { others := words } := rfl
  unfold Request.read
  rw [read]
  change readEval desk ["b", "echo/data", "--data", "d"] = _
  unfold readEval
  rw [parse_words]
  change (do
      let bundle ← findFile desk "b"
      let input ← findOption desk parsed "input"
      let data ← findOption desk parsed "data"
      let configuration ← findOption desk parsed "config"
      pure (Request.eval ⟨bundle, "echo/data", input, none, data, configuration, false, false⟩)) = _
  rw [bundle, data]
  rfl

theorem numbered_fit : ∀ item ∈ numbered, item.Fits := by
  simp only [numbered, List.forall_mem_cons]
  refine ⟨⟨?_, ?_, ?_, ?_⟩, ⟨?_, ?_, ?_, ?_⟩, ⟨?_, ?_, ?_, ?_⟩, List.forall_mem_nil _⟩ <;>
    decide +kernel

def printedWith (bundle : Bundle) : String :=
  match buildHost Engine.policies {} bundle with
  | .ok host =>
    (concluding .standard asking none (evaluated asking .null (dataset .null bundle) host)).output
  | .error _ => ""

/-- The evaluation finds a bundle and a host, and prints the number. -/
theorem asking_prepared : ∃ bundle host,
    Prepared .standard Engine.policies asking .null none bundle host ∧
      (concluding .standard asking none
        (evaluated asking .null (dataset .null bundle) host)).output = "1\n" := by
  have archives := archives_archiveOf numbered numbered_fit
  have made : read Json.Data.standardRoom (Path.normal "/b") (archiveOf numbered) = _ :=
    read_archives (Path.normal "/b") archives
  have printed : (numbered.foldlM
      (Contents.take Json.Data.standardRoom (Path.normal "/b")) {}).toOption.map
      (fun contents => printedWith (ofContents (Path.normal "/b") contents).1) = some "1\n" := by
    decide +kernel
  cases gathered : numbered.foldlM
      (Contents.take Json.Data.standardRoom (Path.normal "/b")) {} with
  | error fault =>
    rw [gathered] at printed
    cases printed
  | ok contents =>
    rw [gathered] at made printed
    replace printed : printedWith (ofContents (Path.normal "/b") contents).1 = "1\n" :=
      Option.some.inj printed
    unfold printedWith at printed
    cases built : buildHost Engine.policies {} (ofContents (Path.normal "/b") contents).1 with
    | error fault =>
      rw [built] at printed
      dsimp only at printed
      exact absurd printed (by decide)
    | ok host =>
      rw [built] at printed
      have unpacked : readBundle .standard asking.bundle =
          .ok (ofContents (Path.normal "/b") contents).1 := by
        unfold readBundle ofFile asking Surroundings.standard
        dsimp only
        rw [made]
        rfl
      have data : readDocument .standard asking.json "data" asking.dataFile none = .ok .null := rfl
      exact ⟨_, host, ⟨by decide, rfl, ⟨_, data⟩, unpacked, {}, rfl, built⟩, printed⟩

theorem asking_given : Given asking.dataFile (some .null) :=
  ⟨.null, "null".toList, rfl, rfl, 0, rfl⟩

theorem numbered_holds : Holds numbered (some (.int 1)) :=
  ⟨.int 1, rfl, ['1'.toNat], rfl, 0, rfl⟩

/-- A folder with a bundle that has nothing but a data document that says null. -/
def shelf : Folder where
  path := "/"
  files := [⟨"/b", archiveOf (archived (Utf8.encode "null"))⟩]

theorem shelf_bundle : shelf.file? "b" =
    some ⟨"/b", archiveOf (archived (Utf8.encode "null"))⟩ := by
  unfold Folder.file? shelf
  rw [resolve_b]
  rfl

theorem shelf_fit : ∀ item ∈ archived (Utf8.encode "null"), item.Fits :=
  archived_fit (by decide +kernel)

theorem shelf_holds : Holds (archived (Utf8.encode "null")) (some .null) :=
  ⟨.null, rfl, "null".toList.map Char.toNat, rfl, 0, rfl⟩

theorem shelf_unpacked : ∃ bundle,
    readBundle .standard ⟨"/b", archiveOf (archived (Utf8.encode "null"))⟩ = .ok bundle := by
  have made : read Json.Data.standardRoom (Path.normal "/b")
      (archiveOf (archived (Utf8.encode "null"))) = _ :=
    read_archives (Path.normal "/b") (archives_archiveOf _ shelf_fit)
  have gathered : ((archived (Utf8.encode "null")).foldlM
      (Contents.take Json.Data.standardRoom (Path.normal "/b")) {}).toOption.isSome = true := by
    decide +kernel
  cases ran : (archived (Utf8.encode "null")).foldlM
      (Contents.take Json.Data.standardRoom (Path.normal "/b")) {} with
  | error fault =>
    rw [ran] at gathered
    cases gathered
  | ok contents =>
    rw [ran] at made
    refine ⟨(ofContents (Path.normal "/b") contents).1, ?_⟩
    unfold readBundle ofFile Surroundings.standard
    dsimp only
    rw [made]
    rfl

/-! ## The selection -/

theorem inspect_told (engine : Engine σ) {folder : Folder} {arguments : List String} {file : File}
    {bundle : Bundle} (asked : Request.read folder arguments = .ok (.inspect file true))
    (unpacked : readBundle around file = .ok bundle) :
    Prints around (run around engine folder arguments) "has_data" (.bool bundle.hasData) ∧
      (∃ items, Archives file.content items) ∧
      ∀ items, Archives file.content items →
        ∃ held, Holds items held ∧ (bundle.hasData = true ↔ ¬ Silent held) := by
  obtain ⟨told, made⟩ := read_of_readBundle unpacked
  have ran : run around engine folder arguments = inspect around file true := by
    unfold run
    rw [asked]
    rfl
  rw [ran]
  refine ⟨inspect_prints unpacked, exists_archives made, fun items archives => ?_⟩
  obtain ⟨held, holds, data⟩ := holds (archives.selects made)
  exact ⟨held, holds, hasData_iff data⟩

/-- The dataset of an evaluation is what the data file says or else what the bundle says, or it
is empty, where to say null is to say nothing.  What is told of a bundle is whether it says
anything. -/
theorem dataset_selected (around : Surroundings) (engine : Engine σ) (folder : Folder)
    (arguments : List String) :
    (∀ e, Request.read folder arguments = .ok (.eval e) →
      Asks (σ := σ) folder arguments e ∧
      ∀ input level bundle host, Prepared around engine e input level bundle host →
        ∃ v came given, run around engine folder arguments = concluding around e level came ∧
          Proceeds e input v host came ∧ Given e.dataFile given ∧
          (∃ items, Archives e.bundle.content items) ∧
          ∀ items, Archives e.bundle.content items →
            ∃ held, Holds items held ∧ Chosen given held v) ∧
    (∀ file bundle, Request.read folder arguments = .ok (.inspect file true) →
      readBundle around file = .ok bundle →
        ∃ answer, Prints around (run around engine folder arguments) "has_data" (.bool answer) ∧
          (∃ items, Archives file.content items) ∧
          ∀ items, Archives file.content items →
            ∃ held, Holds items held ∧ (answer = true ↔ ¬ Silent held)) := by
  constructor
  · refine fun e asked => ⟨asks asked, ?_⟩
    intro input level bundle host prepared
    obtain ⟨told, made⟩ := read_of_readBundle prepared.unpacked
    obtain ⟨v, read⟩ := prepared.data
    obtain ⟨given, document, rfl⟩ := readDocument_given read
    refine ⟨_, _, given, ((asks asked).run_eq around engine).trans (eval_eq prepared read),
      evaluated_proceeds e input (dataset _ bundle) host, document, exists_archives made, ?_⟩
    intro items archives
    obtain ⟨held, holds, data⟩ := holds (archives.selects made)
    exact ⟨held, holds, dataset_chosen given data⟩
  · exact fun file bundle asked unpacked => ⟨bundle.hasData, inspect_told engine asked unpacked⟩

/-- A number that the bundle has is the dataset, although a null was given. -/
theorem dataset_selected_null :
    (∃ bundle host came, Prepared .standard Engine.policies asking .null none bundle host ∧
      run .standard Engine.policies desk words = concluding .standard asking none came ∧
      Proceeds asking .null (.int 1) host came) ∧
    Prints .standard (run .standard Engine.policies desk ["inspect", "b", "--json"]) "has_data"
      (.bool true) := by
  obtain ⟨bundle, host, prepared, _⟩ := asking_prepared
  have archives := archives_archiveOf numbered numbered_fit
  constructor
  · obtain ⟨v, came, given, ended, proceeds, document, _, chosen⟩ :=
      ((dataset_selected .standard Engine.policies desk words).1 asking words_ask).2 .null none
        bundle host prepared
    obtain ⟨held, holds, selected⟩ := chosen numbered archives
    obtain rfl := document.unique asking_given
    obtain rfl := holds.unique numbered_holds
    obtain ⟨there, other⟩ | ⟨_, there, _⟩ | ⟨_, nothing⟩ := selected
    · exact absurd (Option.some.inj there).symm other
    · cases there
      exact ⟨bundle, host, came, prepared, ended, proceeds⟩
    · cases nothing
  · obtain ⟨answer, prints, _, told⟩ :=
      (dataset_selected .standard Engine.policies desk ["inspect", "b", "--json"]).2 _ bundle
        (view_asks desk_bundle) prepared.unpacked
    obtain ⟨held, holds, same⟩ := told numbered archives
    obtain rfl := holds.unique numbered_holds
    have loud : ¬ Silent (some (.int 1)) := nofun
    rwa [same.mpr loud] at prints

/-- The document in the data file is null, and the dataset that is given back is not.  An archive
has a data document, and none is told of. -/
theorem null_passed_over :
    (∃ file, desk.file? "d" = some file ∧ Given (some file) (some .null)) ∧
    (run .standard Engine.policies desk words).output = "1\n" ∧
    (∃ file, shelf.file? "b" = some file ∧
      Archives file.content (archived (Utf8.encode "null")) ∧
      Holds (archived (Utf8.encode "null")) (some .null)) ∧
    Prints .standard (run .standard Engine.policies shelf ["inspect", "b", "--json"]) "has_data"
      (.bool false) := by
  obtain ⟨bundle, host, prepared, printed⟩ := asking_prepared
  have archives := archives_archiveOf _ shelf_fit
  refine ⟨⟨_, desk_data, asking_given⟩, ?_, ⟨_, shelf_bundle, archives, shelf_holds⟩, ?_⟩
  · rw [(asks words_ask).run_eq, eval_eq prepared rfl]
    exact printed
  · obtain ⟨held, unpacked⟩ := shelf_unpacked
    obtain ⟨prints, _, told⟩ := inspect_told Engine.policies (view_asks shelf_bundle) unpacked
    obtain ⟨_, holds, same⟩ := told _ archives
    obtain rfl := holds.unique shelf_holds
    have absent : held.hasData = false := by
      rw [← Bool.not_eq_true, same]
      exact fun loud => loud rfl
    rwa [absent] at prints

end Command
end PolicyHost
