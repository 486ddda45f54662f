/- # LiveScope.Proofs.Command.Setup — a project is built with what it was set up with

Setting up writes a configuration that is read back as it was asked for, and if there is
no scope one that declarations can be made of at once (`set_up_is_loaded`). On the way from
the command line to the document nothing may alter the two texts that are given:

* every text can be given, after an equals sign or, if it does not look like an option, as
  an argument of its own (`Spelled`, `read_init`);
* the configuration is the last thing that is written, over whatever file was there, and
  the scope stays beside it (`CanSetUp.achieves_setUp`);
* its text is parsed back to it (`Config.parse_pretty`), so that it is what the directory is
  configured with from then on (`configured_of_find`).
-/
import LiveScope.Proofs.Command.Delivery
import Mathlib.Data.List.TakeWhile

namespace LiveScope

set_option autoImplicit false

/-! ### Options with a value -/

namespace Arguments

theorem splitEquals_append {name : List Char} (plain : '=' ∉ name) (value : List Char) :
    splitEquals (name ++ '=' :: value) = (String.ofList name, some (String.ofList value)) := by
  have front : ∀ c ∈ name, decide (c ≠ '=') = true := by
    intro c member
    exact decide_eq_true fun same => plain (same ▸ member)
  have taken : (name ++ '=' :: value).takeWhile (· ≠ '=') = name := by
    rw [List.takeWhile_append_of_pos front, List.takeWhile_cons_of_neg (by decide), List.append_nil]
  have left : (name ++ '=' :: value).dropWhile (· ≠ '=') = '=' :: value := by
    rw [List.dropWhile_append_of_pos front, List.dropWhile_cons_of_neg (by decide)]
  rw [splitEquals, left, taken]

theorem splitEquals_of_plain {name : List Char} (plain : '=' ∉ name) :
    splitEquals name = (String.ofList name, none) := by
  have left : name.dropWhile (· ≠ '=') = [] := by
    rw [List.dropWhile_eq_nil_iff]
    intro c member
    exact decide_eq_true fun same => plain (same ▸ member)
  rw [splitEquals, left]

theorem Given.setValue_of_fresh {given : Given} {flag : Flag} {value : String}
    (fresh : given.value? flag.long = none) (mayBeEmpty : flag.mayBeEmpty = true) :
    given.setValue flag value =
      some { given with values := (flag.long, value) :: given.values } := by
  simp only [setValue, fresh, mayBeEmpty, Option.isSome_none, Bool.false_eq_true, Bool.not_true,
    and_false, or_self, if_false]

/-- The ways to give an option a value. What looks like an option can only be given with an
equals sign. -/
inductive Spelled (name value : String) : List String → Prop
  | joined : Spelled name value ["--" ++ name ++ "=" ++ value]
  | apart (noOption : ∀ c more, value.toList ≠ '-' :: c :: more) :
      Spelled name value ["--" ++ name, value]

/-- However it is spelled, the value is set. -/
theorem readAll_spelled {grammar : Grammar} {given : Given} {flag : Flag} {name value : String}
    {words : List String} (spelled : Spelled name value words) (plain : '=' ∉ name.toList)
    (filled : name.toList ≠ []) (known : grammar.flags.find? (·.long == name) = some flag)
    (takes : flag.takesValue = true) (rest : List String) :
    readAll grammar (given, none) (words ++ rest) =
      (given.setValue flag value).bind fun next => readAll grammar (next, none) rest := by
  obtain ⟨c, more, begins⟩ := List.exists_cons_of_ne_nil filled
  cases spelled with
  | joined =>
      have word : ("--" ++ name ++ "=" ++ value).toList =
          '-' :: '-' :: c :: (more ++ '=' :: value.toList) := by
        simp only [String.toList_append, begins, List.append_assoc]
        rfl
      have long : readLong grammar given (c :: (more ++ '=' :: value.toList)) =
          (given.setValue flag value).map (·, none) := by
        rw [← List.cons_append, ← begins]
        simp only [readLong, splitEquals_append plain, String.ofList_toList, known,
          Option.bind_some, takes]
      simp only [List.cons_append, List.nil_append, readAll, word, long, Option.bind_map]
      rfl
  | apart noOption =>
      have word : ("--" ++ name).toList = '-' :: '-' :: c :: more := by
        rw [String.toList_append, begins]
        rfl
      have long : readLong grammar given (c :: more) = some (given, some flag) := by
        rw [← begins]
        simp only [readLong, splitEquals_of_plain plain, String.ofList_toList, known,
          Option.bind_some, takes]
      simp only [List.cons_append, List.nil_append, readAll, word, long, Option.bind_some]

end Arguments

/-- A new project is asked for with its root name and its file. -/
theorem read_init {rootName outFile : String} {root file : List String} (force : Bool)
    (rootSpelled : Arguments.Spelled "root-name" rootName root)
    (fileSpelled : Arguments.Spelled "out-file" outFile file) :
    Request.read ("init" :: (root ++ (file ++ if force then ["--force"] else []))) =
      some (.run (.init ⟨rootName, outFile, force⟩)) := by
  have given : Arguments.readAll Command.initGrammar ({}, none)
      (root ++ (file ++ if force then ["--force"] else [])) = some
        { values := [("out-file", outFile), ("root-name", rootName)]
          switches := if force then ["force"] else [] } := by
    rw [Arguments.readAll_spelled rootSpelled (by decide) (by decide) rfl rfl,
      Arguments.Given.setValue_of_fresh rfl rfl, Option.bind_some,
      Arguments.readAll_spelled fileSpelled (by decide) (by decide) rfl rfl,
      Arguments.Given.setValue_of_fresh rfl rfl, Option.bind_some]
    cases force <;> rfl
  show ((Command.readInit _).map Command.init).map Request.run = _
  rw [Command.readInit, Arguments.read, given]
  cases force <;> rfl

/-! ### Setting up -/

namespace Bench

variable {bench : Bench} {settings : Config.Settings} {arguments : InitArguments}

def configName : Path.Name := ⟨Config.fileName, by decide⟩

def sampleName : Path.Name := ⟨"scope.json", by decide⟩

/-- A project can be set up: no configuration is in the way, unless it is to be replaced, and
the files that are made can be written. -/
structure CanSetUp (bench : Bench) (force : Bool) : Prop where
  unclaimed : bench.directory.isThere (Path.join bench.directory.work.path Config.fileName) = true →
    force = true
  config : bench.directory.TakesFile (Path.join bench.directory.work.path Config.fileName)
  sample : bench.directory.isThere (Path.join bench.directory.work.path "scope.json") = false →
    bench.directory.TakesFile (Path.join bench.directory.work.path "scope.json")

/-- After setting up, the configuration that was asked for is in its file. If no scope was
there, the one that a project begins with is. -/
theorem CanSetUp.achieves_setUp (able : CanSetUp bench arguments.force) :
    Achieves (Command.setUp arguments) bench fun after =>
      after.directory.work = bench.directory.work ∧
        after.directory.find (Path.join bench.directory.work.path Config.fileName) =
          .ok (.file (Command.startingConfig arguments).toJson.pretty.toUTF8) ∧
        (bench.directory.isThere (Path.join bench.directory.work.path "scope.json") = false →
          after.directory.find "scope.json" = .ok (.file Command.exampleScope.toUTF8)) := by
  have goesOn : ¬(bench.directory.isThere (Path.join bench.directory.work.path Config.fileName) &&
      !arguments.force) = true := by
    intro taken
    obtain ⟨there, free⟩ := Bool.and_eq_true_iff.1 taken
    rw [able.unclaimed there] at free
    cases free
  refine (ends_workingDirectory bench).achieves ((ends_fileExists bench _).achieves ?_)
  rw [if_neg goesOn]
  refine (ends_say bench _).achieves ((ends_fileExists _ _).achieves ?_)
  dsimp only
  split
  · next absent =>
      rw [Bool.not_eq_true'] at absent
      refine achieves_writeText (able.sample absent) fun sample sampleWritten =>
        (ends_say _ _).achieves ?_
      have vacant := Directory.vacant_of_destination sampleWritten
      have takes := able.config.put vacant Command.exampleScope.toUTF8
      refine achieves_writeText takes fun place written => ⟨_, rfl, ?_⟩
      dsimp only
      refine ⟨?_, Directory.find_put written _, fun _ => ?_⟩
      · rw [Directory.work_put, Directory.work_put]
      · exact @Directory.find_put_put _ _ sampleName configName (by decide) _ _ sampleWritten
          written _
  · next there =>
      refine achieves_writeText able.config fun place written => ⟨_, rfl,
        Directory.work_put _ _ _, Directory.find_put written _, fun absent => ?_⟩
      rw [absent] at there
      exact absurd rfl there

/-- Declarations that are printed, with no other root name or configuration asked for, have this
root name and the default indentation. -/
def PrintsUnder (bench : Bench) (rootName : String) : Prop :=
  ∀ (line : List String) (input : String) (out : Option String) (source : String) (scope : Scope)
    (last : Bench),
    Request.read line = some (.run (.declarations { input, out, toOutput := true })) →
    (readSource ⟨input⟩).run bench = (.ok source, last) → Scope.parse source = .ok scope →
    ∃ after, (execute line : StateM Bench Nat).run bench = (0, after) ∧
      after.output = bench.output ++ (Document.ofScope ⟨rootName, "  "⟩ scope).text ∧
      after.directory = bench.directory

theorem Configured.printsUnder {rootName : String}
    (configured : Configured bench none settings bench)
    (sets : settings.config.options = ⟨rootName, "  "⟩) : PrintsUnder bench rootName := by
  intro line input out source scope last asked text valid
  have ready : Ready bench { input, out, toOutput := true } settings scope last :=
    .intro configured text valid
  obtain ⟨final, exits, printed, same⟩ := ready.delivers asked fun _ printing => by cases printing
  refine ⟨final, exits, ?_, same⟩
  rw [printed, ← sets]
  rfl

/-- The declarations of the scope that a project begins with are made at once under this root
name: printed if that is asked for, and else in this file, if it can be written. -/
def BeginsUnder (bench : Bench) (rootName outFile : String) : Prop :=
  ∃ scope, Scope.parse Command.exampleScope = .ok scope ∧
    let text := (Document.ofScope ⟨rootName, "  "⟩ scope).text
    let file := Path.join bench.directory.work.path outFile
    (∃ after, (execute ["declarations", "scope.json", "--stdout"] : StateM Bench Nat).run bench =
      (0, after) ∧ Delivered bench after text none) ∧
    (bench.directory.IsWritable file →
      ∃ after, (execute ["declarations", "scope.json"] : StateM Bench Nat).run bench =
        (0, after) ∧ Delivered bench after text (some file))

theorem exists_exampleScope : ∃ scope, Scope.parse Command.exampleScope = .ok scope := by
  have valid : (Scope.parse Command.exampleScope).toOption.isSome = true := by decide +kernel
  cases parsed : Scope.parse Command.exampleScope with
  | error refusal =>
      rw [parsed] at valid
      cases valid
  | ok scope => exact ⟨scope, rfl⟩

theorem Configured.beginsUnder {rootName outFile : String} {force : Bool}
    (configured : Configured bench none
      (.ofJson (Command.startingConfig ⟨rootName, outFile, force⟩).toJson) bench)
    (found : bench.directory.find "scope.json" = .ok (.file Command.exampleScope.toUTF8)) :
    BeginsUnder bench rootName outFile := by
  obtain ⟨scope, valid⟩ := exists_exampleScope
  have text : (readSource ⟨"scope.json"⟩).run bench = (.ok Command.exampleScope, bench) := by
    rw [← decodeText_toUTF8]
    exact readText_of_find found
  have ready (toOutput : Bool) : Ready bench { input := "scope.json", toOutput } _ scope bench :=
    .intro configured text valid
  refine ⟨scope, valid, ?_, fun writable => ?_⟩
  · exact (ready true).delivers (by rfl) fun _ printing => by cases printing
  · refine (ready false).delivers (by rfl) fun path goal => ?_
    cases goal
    exact writable

/-- What a project is set up with is what is loaded there, and what its declarations are
printed with, as long as the configuration is left as it is. If there was no scope, there is
one now to make declarations of. -/
theorem set_up_is_loaded :
    (∀ config : Config, Config.parse config.toJson.pretty = .ok config) ∧
    (∀ (rootName outFile : String) (force : Bool) (root file : List String),
      Arguments.Spelled "root-name" rootName root → Arguments.Spelled "out-file" outFile file →
      Request.read ("init" :: (root ++ (file ++ if force then ["--force"] else []))) =
        some (.run (.init ⟨rootName, outFile, force⟩))) ∧
    ∀ (line : List String) (rootName outFile : String) (force : Bool) (bench : Bench),
      Request.read line = some (.run (.init ⟨rootName, outFile, force⟩)) →
      CanSetUp bench force →
      ∃ after, (execute line : StateM Bench Nat).run bench = (0, after) ∧
        (∀ later : Bench, later.directory.work = after.directory.work →
          later.directory.find (Path.join after.directory.work.path Config.fileName) =
            after.directory.find (Path.join after.directory.work.path Config.fileName) →
          Ends (Command.findConfig none) later (.ok ⟨⟨rootName, "  "⟩, some outFile⟩) later ∧
            PrintsUnder later rootName) ∧
        (bench.directory.isThere (Path.join bench.directory.work.path "scope.json") = false →
          BeginsUnder after rootName outFile) := by
  refine ⟨Config.parse_pretty, fun _ _ force _ _ root file => read_init force root file, ?_⟩
  intro line rootName outFile force bench asked able
  obtain ⟨after, ends, sameWork, found, sample⟩ :=
    @CanSetUp.achieves_setUp bench ⟨rootName, outFile, force⟩ able
  have configured {later : Bench} (work : later.directory.work = after.directory.work)
      (kept : later.directory.find (Path.join after.directory.work.path Config.fileName) =
        after.directory.find (Path.join after.directory.work.path Config.fileName)) :
      Configured later none
        (.ofJson (Command.startingConfig ⟨rootName, outFile, force⟩).toJson) later := by
    refine configured_of_find ?_
    rw [work, kept, sameWork, found]
  refine ⟨after, execute_of_ends asked ends, fun later work kept => ?_, fun absent => ?_⟩
  · exact ⟨(configured work kept).ends_findConfig, (configured work kept).printsUnder rfl⟩
  · exact (configured rfl rfl).beginsUnder (sample absent)

theorem project_canSetUp : CanSetUp project true where
  unclaimed := fun _ => rfl
  config := by
    refine ⟨Place.root.follow (Path.parts "/work/scopetype.config.json"),
      Directory.destination_eq_ok_iff.2 ⟨Path.parts "/work", configName,
        Place.root.follow (Path.parts "/work"), Directory.vet_eq_ok_iff.2 (by decide +kernel),
        by decide +kernel, by decide +kernel, by decide +kernel, by decide +kernel,
        by decide +kernel⟩, ?_⟩
    have file : project.directory.nodeAt
        (Place.root.follow (Path.parts "/work/scopetype.config.json")) =
          some (.file generating.toJson.pretty.toUTF8) := by rfl
    intro device
    rw [file]
    nofun
  sample := by
    intro absent
    obtain ⟨-, there⟩ := @project_find "/work/scope.json" (Json.object ada.entries).pretty
      (by decide +kernel) (by decide +kernel) (by decide +kernel) (by rfl)
    exact absurd (there.symm.trans absent) (by decide)

/-- The root, with nothing in it, as the working directory. -/
def bare : Bench := { directory := { name := "/" } }

theorem bare_canSetUp : CanSetUp bare false where
  unclaimed := by
    intro there
    have absent : bare.directory.isThere "/scopetype.config.json" = false :=
      Directory.isThere_eq_false (Place.root.follow [.named configName])
        (Directory.vet_eq_ok_iff.2 (by decide +kernel)) (by decide +kernel) (by decide +kernel)
        (by decide +kernel)
    exact absurd (there.symm.trans absent) (by decide)
  config := Directory.takesFile_of_absent (Place.root.follow [.named configName])
    (Directory.destination_eq_ok_iff.2 ⟨[], configName, .root,
      Directory.vet_eq_ok_iff.2 (by decide +kernel), by decide +kernel, by decide +kernel,
      by decide +kernel, by decide +kernel, by decide +kernel⟩) (by decide +kernel)
  sample := fun _ => Directory.takesFile_of_absent (Place.root.follow [.named sampleName])
    (Directory.destination_eq_ok_iff.2 ⟨[], sampleName, .root,
      Directory.vet_eq_ok_iff.2 (by decide +kernel), by decide +kernel, by decide +kernel,
      by decide +kernel, by decide +kernel, by decide +kernel⟩) (by decide +kernel)

theorem bare_isThere_sample : bare.directory.isThere "/scope.json" = false :=
  Directory.isThere_eq_false (Place.root.follow [.named sampleName])
    (Directory.vet_eq_ok_iff.2 (by decide +kernel)) (by decide +kernel) (by decide +kernel)
    (by decide +kernel)

theorem project_set_up :
    (∃ after, (execute ["init", "--root-name=-\"Größe\"", "--out-file", "gen\\x.d.ts", "--force"] :
        StateM Bench Nat).run project = (0, after) ∧
      Ends (Command.findConfig none) after
        (.ok ⟨{ rootName := "-\"Größe\"" }, some "gen\\x.d.ts"⟩) after ∧
      ∃ final, (execute ["declarations", "-", "--stdout"] : StateM Bench Nat).run
          { after with input := (Json.object ada.entries).pretty.toUTF8 } = (0, final) ∧
        final.output =
          after.output ++ (Document.ofScope { rootName := "-\"Größe\"" } ada).text) ∧
    ∃ after, (execute ["init"] : StateM Bench Nat).run bare = (0, after) ∧
      ∃ scope final, Scope.parse Command.exampleScope = .ok scope ∧
        (execute ["declarations", "scope.json", "--stdout"] : StateM Bench Nat).run after =
          (0, final) ∧
        final.output = after.output ++ (Document.ofScope {} scope).text := by
  constructor
  · have noOption : ∀ c more, "gen\\x.d.ts".toList ≠ '-' :: c :: more := by
      intro c more same
      have first : 'g' = '-' := Option.some.inj (congrArg List.head? same)
      exact absurd first (by decide)
    have asked :=
      set_up_is_loaded.2.1 "-\"Größe\"" "gen\\x.d.ts" true _ _ .joined (.apart noOption)
    obtain ⟨after, exits, loaded, -⟩ :=
      set_up_is_loaded.2.2 _ _ _ _ project asked project_canSetUp
    refine ⟨after, exits, (loaded after rfl rfl).1, ?_⟩
    have fits : Json.Fits Json.Reader.depthLimit (.object ada.entries) :=
      .single "user" (.single "name" (.string "Ada"))
    have valid : Scope.parse (Json.object ada.entries).pretty = .ok ada := by
      rw [Scope.parse, fits.parse_pretty]
      rfl
    let later : Bench := { after with input := (Json.object ada.entries).pretty.toUTF8 }
    have reads : (readSource ⟨"-"⟩).run later =
        (.ok (Json.object ada.entries).pretty, { later with input := .empty }) := by
      rw [← decodeText_toUTF8]
      rfl
    obtain ⟨final, prints, printed, -⟩ := (loaded later rfl rfl).2
      ["declarations", "-", "--stdout"] "-" none _ ada _ (by rfl) reads valid
    exact ⟨final, prints, printed⟩
  · obtain ⟨after, exits, -, begins⟩ := set_up_is_loaded.2.2 ["init"] "RootObject" "scope.d.ts"
      false bare (by rfl) bare_canSetUp
    obtain ⟨scope, valid, ⟨final, prints, printed, -⟩, -⟩ := begins bare_isThere_sample
    exact ⟨after, exits, scope, final, valid, prints, printed⟩

end Bench

end LiveScope
