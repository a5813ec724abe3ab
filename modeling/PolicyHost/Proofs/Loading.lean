import PolicyHost.Proofs.Datasets
import PolicyHost.Proofs.Notices
import PolicyHost.Proofs.Settings

namespace PolicyHost

/-!
# What comes of loading a configuration

A configuration file that cannot be read, is no YAML or does not make settings
is told of in a report that names it, whatever reads its YAML.  Three kinds of
files are not: those whose path holds a null character, those whose bytes are
no text, and those that set a level to a text without a UTF-8 form.  Nor are
the faults of a YAML reader other than that a text is malformed.  All these
are passed on as they are, by a command as well.
-/

namespace Configuration

variable {load : Yaml.Loader}

/-- What a text stumbles over: a fault of the reader's own, or a level without a UTF-8 form. -/
inductive Stumbles (load : Yaml.Loader) (text : HostText) : Fault → Prop
  | reader {failure : Yaml.Failure} (read : load text = .error failure)
    (other : failure ≠ .malformed) : Stumbles load text (yamlFault "" failure)
  | level {value : Value} (read : load text = .ok value) (broken : BrokenLevel value) :
    Stumbles load text .unencodable

/-- The faults of loading a file that are no reports. -/
inductive Foreign (load : Yaml.Loader) (path : String) : Option Bytes → Fault → Prop
  | path {content : Option Bytes} : '\x00' ∈ path.toList → Foreign load path content .badValue
  | bytes {bytes : Bytes} : '\x00' ∉ path.toList → Utf8.decode bytes = none →
    Foreign load path (some bytes) .notText
  | text {bytes : Bytes} {chars : List Char} {fault : Fault} :
    '\x00' ∉ path.toList → Utf8.decode bytes = some chars →
    Stumbles load (.whole (String.ofList (withLineFeeds chars))) fault →
    Foreign load path (some bytes) fault

/-- What can come of loading a configuration: settings, a report that names it, or one of some
other faults. -/
inductive Loads (source : String) (other : Fault → Prop) : Except Fault Configuration → Prop
  | settings (c : Configuration) : Loads source other (.ok c)
  | report {fault : Fault} : Blames source fault → Loads source other (.error fault)
  | fault {fault : Fault} : other fault → Loads source other (.error fault)

theorem Loads.imp {source : String} {kind other : Fault → Prop}
    {outcome : Except Fault Configuration} (loads : Loads source kind outcome)
    (implies : ∀ fault, kind fault → other fault) : Loads source other outcome := by
  cases loads with
  | settings c => exact .settings c
  | report blames => exact .report blames
  | fault holds => exact .fault (implies _ holds)

/-- Only that a text is malformed is reported, under the name of its source. -/
theorem yamlFault_eq (source : String) {failure : Yaml.Failure} (other : failure ≠ .malformed) :
    yamlFault source failure = yamlFault "" failure := by
  cases failure with
  | malformed => exact absurd rfl other
  | _ => rfl

theorem ofYaml_loads (load : Yaml.Loader) (source : String) (text : HostText) :
    Loads source (Stumbles load text) (ofYaml load source text) := by
  cases read : load text with
  | error failure =>
    have failed : ofYaml load source text = .error (yamlFault source failure) := by
      rw [ofYaml, read]
    rw [failed]
    by_cases malformed : failure = .malformed
    · subst malformed
      exact .report (blames_badConfiguration _ _)
    · rw [yamlFault_eq source malformed]
      exact .fault (.reader read malformed)
  | ok value =>
    by_cases makes : ∃ c, Makes value c
    · obtain ⟨c, makes⟩ := makes
      rw [(ofYaml_ok source read c).mpr makes]
      exact .settings c
    · by_cases broken : BrokenLevel value
      · rw [ofYaml_broken source read broken]
        exact .fault (.level read broken)
      · obtain ⟨fault, refused, blames⟩ := ofYaml_refused source read (not_exists.mp makes) broken
        rw [refused]
        exact .report blames

theorem ofYaml_stumbles {source : String} {text : HostText} {fault : Fault}
    (stumbles : Stumbles load text fault) : ofYaml load source text = .error fault := by
  cases stumbles with
  | reader read other => rw [ofYaml, read, ← yamlFault_eq source other]
  | level read broken => exact ofYaml_broken source read broken

theorem ofFile_loads (load : Yaml.Loader) (path : String) (content : Option Bytes) :
    Loads (Path.normal path) (Foreign load path content) (ofFile load path content) := by
  unfold ofFile
  dsimp only
  by_cases holds : '\x00' ∈ path.toList
  · rw [if_pos (List.contains_iff_mem.mpr holds)]
    exact .fault (.path holds)
  · rw [if_neg fun listed => holds (List.contains_iff_mem.mp listed)]
    cases content with
    | none => exact .report (blames_badConfiguration _ _)
    | some bytes =>
      dsimp only
      cases decoded : Utf8.decode bytes with
      | none => exact .fault (.bytes holds decoded)
      | some chars => exact (ofYaml_loads load _ _).imp fun fault => .text holds decoded

theorem ofFile_foreign {path : String} {content : Option Bytes} {fault : Fault}
    (foreign : Foreign load path content fault) : ofFile load path content = .error fault := by
  unfold ofFile
  dsimp only
  cases foreign with
  | path holds => rw [if_pos (List.contains_iff_mem.mpr holds)]
  | bytes free decoded =>
    rw [if_neg fun listed => free (List.contains_iff_mem.mp listed)]
    dsimp only
    rw [decoded]
  | text free decoded stumbles =>
    rw [if_neg fun listed => free (List.contains_iff_mem.mp listed)]
    dsimp only
    rw [decoded]
    exact ofYaml_stumbles stumbles

/-- A bound that was read is large enough to build with. -/
theorem builder_of_makes {value : Value} {c : Configuration} (makes : Makes value c) :
    ∃ builder, Builder.ofConfiguration c = .ok builder := by
  have enough : ∀ n, c.maxPages = some n → 2 ≤ n := by
    intro n bound
    cases makes with
    | absent => cases bound
    | hollow => cases bound
    | settled settles =>
      have bounds := settles.maxPages
      rw [bound] at bounds
      unfold Settled at bounds
      split at bounds
      · cases bounds
      · cases bounds with
        | bounded _ least => exact least
  unfold Builder.ofConfiguration Builder.withMaxPages
  cases bound : c.maxPages with
  | none => exact ⟨_, rfl⟩
  | some n =>
    have least : ¬ n < (Builder.initialPages : Nat) := by
      have := enough n bound
      unfold Builder.initialPages
      omega
    dsimp only
    rw [if_neg least]
    exact ⟨_, rfl⟩

theorem makes_of_ofFile {path : String} {content : Option Bytes} {c : Configuration}
    (loaded : ofFile load path content = .ok c) : ∃ value, Makes value c := by
  unfold ofFile at loaded
  dsimp only at loaded
  split at loaded
  · cases loaded
  · split at loaded
    · cases loaded
    · split at loaded
      · cases loaded
      · rename_i chars _
        cases read : load (.whole (String.ofList (withLineFeeds chars))) with
        | error failure =>
          rw [ofYaml, read] at loaded
          cases loaded
        | ok value => exact ⟨value, (ofYaml_ok _ read c).mp loaded⟩

end Configuration

namespace Command

open PolicyHost.Configuration

variable {σ : Type} (around : Surroundings)

/-- A command line asks for an evaluation and names a configuration file. -/
structure Names (arguments : List String) (name : String) : Prop where
  words : ∃ rest parsed, Options.parse commonOptions false arguments =
      .ok { others := "eval" :: rest } ∧ Options.parse evalOptions true rest = .ok parsed ∧
    parsed.has "help" = false ∧ parsed.value? "config" = some name

/-- The documents of an evaluation are there. -/
structure Supplied (e : Evaluation) (input data : Value) : Prop where
  oneInput : ¬ (e.inputFile.isSome ∧ e.inputText.isSome)
  input : readDocument around e.json "input" e.inputFile e.inputText = .ok input
  data : readDocument around e.json "data" e.dataFile none = .ok data

/-- An outcome with the level that an evaluation sets up before anything else. -/
def leveled (e : Evaluation) (outcome : Outcome) : Outcome :=
  { outcome with level := if e.debug then some .debug else none }

/-- How an evaluation ends that has a configuration file. -/
inductive Configures (engine : Engine σ) (e : Evaluation) (file : File) (outcome : Outcome) : Prop
  /-- It lacks documents, and tells that unless there is no room for one. -/
  | refused (lacks : ∀ input data, ¬ Supplied around e input data)
    (told : outcome.Told ∨ outcome = leveled e (.pass .exhausted))
  /-- It goes on with what the file says. -/
  | proceeds (c : Configuration) (builder : Builder) (input data : Value)
    (supplied : Supplied around e input data)
    (loaded : ofFile around.yaml file.path (some file.content) = .ok c)
    (made : Builder.ofConfiguration c = .ok builder)
    (ended : outcome =
      concluding around e (some c.logLevel) (result around engine builder e input data))
  /-- It reports what is wrong with the file. -/
  | reported (r : Report)
    (loaded : ofFile around.yaml file.path (some file.content) = .error (.report r))
    (blames : Configuration.Blames (Path.normal file.path) (.report r))
    (ended : outcome = leveled e (.failing around.terminal r e.json e.debug)) (told : outcome.Told)
  /-- It passes on a fault that is no report. -/
  | foreign (fault : Fault) (why : Foreign around.yaml file.path (some file.content) fault)
    (ended : outcome = leveled e (.pass fault))

/-- How a command line ends that names a configuration file. -/
inductive Concludes (engine : Engine σ) (folder : Folder) (arguments : List String) (name : String)
    (outcome : Outcome) : Prop
  | misused (misuse : Options.Misuse) (unread : Request.read folder arguments = .error misuse)
    (ended : outcome = { exitCode := 2, misuse := some misuse })
  | evaluated (e : Evaluation) (file : File) (there : folder.file? name = some file)
    (named : e.configFile = some file) (configures : Configures around engine e file outcome)

theorem told_leveled {outcome : Outcome} (e : Evaluation) (told : outcome.Told) :
    (leveled e outcome).Told :=
  ⟨told.exitCode, told.raised⟩

variable {around}

/-- A document that cannot be read is told of, unless there is no room for it. -/
theorem readDocument_error {json : Bool} {label : String} {file : Option File} {text : Option String}
    {outcome : Outcome} (unread : readDocument around json label file text = .error outcome) :
    outcome.Told ∨ outcome = .pass .exhausted := by
  have told : ∀ source flaw, (Command.unread around json label source flaw).Told ∨
      Command.unread around json label source flaw = .pass .exhausted := by
    intro source flaw
    cases flaw with
    | exhausted => exact .inr rfl
    | _ => exact .inl (Outcome.refusing_told _ _)
  have read : ∀ source chars, readJson around json label source chars = .error outcome →
      outcome.Told ∨ outcome = .pass .exhausted := by
    intro source chars failed
    unfold readJson at failed
    cases means : Json.Data.readText around.given chars with
    | ok v =>
      rw [means] at failed
      cases failed
    | error flaw =>
      rw [means] at failed
      cases failed
      exact told source flaw
  unfold readDocument at unread
  split at unread
  · split at unread
    · exact read _ _ unread
    · cases unread
      exact told _ _
  · exact read _ _ unread
  · cases unread

theorem foreign_passed {load : Yaml.Loader} {path : String} {content : Option Bytes} {fault : Fault}
    (foreign : Foreign load path content fault) (terminal : Terminal) (json debug : Bool) :
    Outcome.ofFault terminal fault json debug = .pass fault := by
  cases foreign with
  | path | bytes => rfl
  | text _ _ stumbles =>
    cases stumbles with
    | level => rfl
    | @reader failure _ other =>
      cases failure with
      | malformed => exact absurd rfl other
      | _ => rfl

theorem eval_configures (engine : Engine σ) (e : Evaluation) (file : File)
    (named : e.configFile = some file) :
    Configures around engine e file (eval around engine e) := by
  have lacking : ∀ {outcome : Outcome}, outcome.Told ∨ outcome = .pass .exhausted →
      (leveled e outcome).Told ∨ leveled e outcome = leveled e (.pass .exhausted) :=
    fun ends => ends.imp (told_leveled e) (congrArg (leveled e))
  unfold eval
  dsimp only
  split
  · rename_i both
    refine .refused (fun input data supplied => supplied.oneInput ?_)
      (.inl (told_leveled e (Outcome.refusing_told _ _)))
    simpa using both
  · rename_i one
    split
    · rename_i outcome unread
      refine .refused (fun input data supplied => ?_) (lacking (readDocument_error unread))
      cases unread.symm.trans supplied.input
    · rename_i input outcome read unread
      refine .refused (fun input data supplied => ?_) (lacking (readDocument_error unread))
      cases unread.symm.trans supplied.data
    · rename_i input data readInput readData
      have supplied : Supplied around e input data := ⟨by simpa using one, readInput, readData⟩
      cases loaded : ofFile around.yaml file.path (some file.content) with
      | error fault =>
        have unsettled : configured around e.configFile = .error fault := by
          unfold configured
          rw [named]
          dsimp only
          rw [loaded]
          rfl
        rw [unsettled]
        have loads := ofFile_loads around.yaml file.path (some file.content)
        rw [loaded] at loads
        cases loads with
        | report blames =>
          obtain ⟨r, rfl, _⟩ := id blames
          exact .reported r loaded blames rfl (told_leveled e (Outcome.failing_told _ _ _))
        | fault foreign =>
          have passed := foreign_passed foreign around.terminal e.json e.debug
          exact .foreign fault foreign (congrArg (leveled e) passed)
      | ok c =>
        obtain ⟨value, makes⟩ := makes_of_ofFile loaded
        obtain ⟨builder, made⟩ := builder_of_makes makes
        have settled : configured around e.configFile = .ok (builder, some c.logLevel) := by
          unfold configured
          rw [named]
          dsimp only
          rw [loaded, bind_ok, made]
          rfl
        rw [settled]
        dsimp only
        refine .proceeds c builder input data supplied loaded made ?_
        unfold concluding
        cases result around engine builder e input data <;> rfl

theorem readEval_names {folder : Folder} {rest : List String} {parsed : Options.Parsed}
    {request : Request} (read : Options.parse evalOptions true rest = .ok parsed)
    (plain : parsed.has "help" = false) (asked : readEval folder rest = .ok request) :
    ∃ e, request = .eval e ∧ findOption folder parsed "config" = .ok e.configFile := by
  obtain ⟨other, again, asked⟩ := ok_of_bind asked
  rw [read] at again
  cases again
  split at asked
  · rename_i helps
    rw [plain] at helps
    cases helps
  · split at asked
    · cases asked
    · cases asked
    · obtain ⟨_, _, asked⟩ := ok_of_bind asked
      obtain ⟨_, _, asked⟩ := ok_of_bind asked
      obtain ⟨_, _, asked⟩ := ok_of_bind asked
      obtain ⟨_, found, asked⟩ := ok_of_bind asked
      cases asked
      exact ⟨_, rfl, found⟩
    · cases asked

theorem run_concludes (engine : Engine σ) (folder : Folder) {arguments : List String}
    {name : String} (names : Names arguments name) :
    Concludes around engine folder arguments name (run around engine folder arguments) := by
  obtain ⟨rest, parsed, words, read, plain, named⟩ := names.words
  have reads : Request.read folder arguments = readEval folder rest := by
    unfold Request.read
    rw [words]
    rfl
  unfold run
  rw [reads]
  cases asked : readEval folder rest with
  | error misuse => exact .misused misuse (reads.trans asked) rfl
  | ok request =>
    obtain ⟨e, rfl, found⟩ := readEval_names read plain asked
    obtain ⟨same, there⟩ := findOption_ok found
    rw [named] at same there
    obtain ⟨file, has⟩ := Option.isSome_iff_exists.mp (there rfl)
    rw [has] at same
    exact .evaluated e file same.symm has (eval_configures engine e file has)

/-- A configuration is loaded, or is reported under its name, unless the path, the bytes or a
level have a fault that is not, or the reader of its text has; and so for a text.  A command line
that names a configuration file goes on with what the file says or tells what is wrong with it,
with the same exceptions, and is no use if there is no such file. -/
theorem configuration_told (load : Yaml.Loader) (around : Surroundings) (engine : Engine σ)
    (folder : Folder) :
    (∀ path content,
      Loads (Path.normal path) (Foreign load path content) (ofFile load path content) ∧
      ∀ fault, Foreign load path content fault → ofFile load path content = .error fault) ∧
    (∀ text,
      Loads textSource (Stumbles load text) (ofText load text) ∧
      ∀ fault, Stumbles load text fault → ofText load text = .error fault) ∧
    ∀ arguments name, Names arguments name →
      Concludes around engine folder arguments name (run around engine folder arguments) :=
  ⟨fun path content => ⟨ofFile_loads load path content, fun _ => ofFile_foreign⟩,
    fun text => ⟨ofYaml_loads load textSource text, fun _ => ofYaml_stumbles⟩,
    fun _ _ => run_concludes engine folder⟩

/-- A command line that takes the file that says null for a configuration. -/
def consulting : List String := ["eval", "b", "echo/data", "--config", "d"]

theorem consulting_names : Names consulting "d" := by
  have option : Options.read evalOptions "--config" = .ok (.pending [] "config" "--config") :=
    read_long 'c' ['o', 'n', 'f', 'i', 'g'] rfl rfl
      (@readLong?_known evalOptions "--config" _ (by simp) rfl)
  have read : Options.parse evalOptions true ["b", "echo/data", "--config", "d"] =
      .ok { given := [("config", some "d")], others := ["b", "echo/data"] } := by
    unfold Options.parse Options.parseFrom
    rw [show Options.read evalOptions "b" = .ok .other from rfl]
    dsimp only
    unfold Options.parseFrom
    rw [show Options.read evalOptions "echo/data" = .ok .other from rfl]
    dsimp only
    unfold Options.parseFrom
    rw [option]
    rfl
  exact ⟨["b", "echo/data", "--config", "d"], _, rfl, read, rfl, rfl⟩

/-- A byte that begins no character ends the loading of a file, and a command line that names a
configuration concludes. -/
theorem configuration_told_undecodable :
    ofFile Yaml.load "c.yaml" (some [0xFF]) = .error .notText ∧
      Names consulting "d" ∧
      Concludes .standard Engine.policies desk consulting "d"
        (run .standard Engine.policies desk consulting) := by
  have told := configuration_told Yaml.load .standard Engine.policies desk
  have foreign : Foreign Yaml.load "c.yaml" (some [0xFF]) .notText :=
    .bytes (by decide) (by decide)
  exact ⟨(told.1 "c.yaml" (some [0xFF])).2 _ foreign, consulting_names,
    told.2.2 consulting "d" consulting_names⟩

/-- That fault is no report, and neither is the one of a level without a UTF-8 form. -/
theorem undecodable_untold :
    (¬ ∀ path content fault, ofFile Yaml.load path content = .error fault →
      Configuration.Blames (Path.normal path) fault) ∧
    ¬ ∀ text fault, ofText Yaml.load text = .error fault →
      Configuration.Blames textSource fault := by
  constructor
  · intro blamed
    have failed : ofFile Yaml.load "c.yaml" (some [0xFF]) = .error .notText :=
      ofFile_foreign (.bytes (by decide) (by decide))
    obtain ⟨r, impossible, _⟩ := blamed "c.yaml" (some [0xFF]) .notText failed
    cases impossible
  · intro blamed
    have failed : ofText Yaml.load (.whole "log_level: \"\\ud800\"") = .error .unencodable :=
      ofYaml_stumbles (.level load_half (.level (.inl rfl) rfl))
    obtain ⟨r, impossible, _⟩ := blamed _ .unencodable failed
    cases impossible

end Command

end PolicyHost
