/- # LiveScope.Proofs.Command.Delivery — declarations are delivered whole or not at all

Declarations are made from settings and a scope. A bench is `Ready` for them if both can be
read, and `Refused` with a failure if one of the two cannot; it is one or the other
(`ready_or_refused`, `Ready.not_refused`), and there is one reading (`Ready.unique`). Both
are said of the texts that are read, not of the commands that read them.

* What is refused fails, having only read (`Refused.ends_writeDeclarations`).
* What is ready is delivered (`Ready.achieves_writeDeclarations`): the document is printed,
  or it is in its file and no other file has changed (`Delivered`).

Where the document goes and which options it is made with is settled by the arguments first
and by the settings second (`target`, `options`).
-/
import LiveScope.Proofs.Command.Bench
import LiveScope.Proofs.Command.Configuration

namespace LiveScope

set_option autoImplicit false

open Command (Failure Source)
open Config (Settings)

namespace Bench

variable {bench middle after : Bench} {named : Option String} {settings : Settings}
  {failure : Failure}

/-! ### The configuration -/

/-- The file of the configuration: the named one, else that of the working directory if it is
there. -/
def configPath? (bench : Bench) : Option String → Option String
  | some path => some path
  | none =>
      let path := Path.join bench.directory.work.path Config.fileName
      if bench.directory.isThere path then some path else none

/-- What is set for a bench: nothing if there is no configuration, else what the object in its
file says. -/
inductive Configured (bench : Bench) (named : Option String) : Settings → Bench → Prop
  | absent (nowhere : bench.configPath? named = none) : Configured bench named {} bench
  | read {path source : String} {config : Config} {json : Json} {after : Bench}
      (chosen : bench.configPath? named = some path)
      (text : (readText path).run bench = (.ok source, after))
      (valid : Config.parse source = .ok config) (object : Json.parse source = .ok json) :
      Configured bench named (.ofJson json) after

/-- There is a configuration, or one was named, but nothing can be read from it. -/
inductive Misconfigured (bench : Bench) (named : Option String) : Failure → Prop
  | unreadable {path : String} {error : FileError} {after : Bench}
      (chosen : bench.configPath? named = some path)
      (unread : (readText path).run bench = (.error error, after)) :
      Misconfigured bench named (.unreadableConfig path error)
  | invalid {path source : String} {complaint : Json.Complaint} {after : Bench}
      (chosen : bench.configPath? named = some path)
      (text : (readText path).run bench = (.ok source, after))
      (invalid : Config.parse source = .error complaint) :
      Misconfigured bench named (.invalidConfig path complaint)

theorem configPath?_of_isThere
    (there : bench.directory.isThere (Path.join bench.directory.work.path Config.fileName) = true) :
    bench.configPath? none = some (Path.join bench.directory.work.path Config.fileName) := by
  simp only [configPath?, there, if_true]

/-- A configuration that was written to its file is the one that is set. -/
theorem configured_of_find {config : Config}
    (found : bench.directory.find (Path.join bench.directory.work.path Config.fileName) =
      .ok (.file config.toJson.pretty.toUTF8)) :
    Configured bench none (.ofJson config.toJson) bench := by
  refine .read (configPath?_of_isThere (Directory.isThere_of_find found)) ?_
    (Config.parse_pretty config) (Config.fits_toJson config).parse_pretty
  rw [readText_of_find found, decodeText_toUTF8]

theorem configured_or_misconfigured (bench : Bench) (named : Option String) :
    (∃ settings after, Configured bench named settings after) ∨
      ∃ failure, Misconfigured bench named failure := by
  cases chosen : bench.configPath? named with
  | none => exact .inl ⟨_, _, .absent chosen⟩
  | some path =>
      cases read : (readText path).run bench with
      | mk answer after =>
          cases answer with
          | error error => exact .inr ⟨_, .unreadable chosen read⟩
          | ok source =>
              cases valid : Config.parse source with
              | error complaint => exact .inr ⟨_, .invalid chosen read valid⟩
              | ok config =>
                  obtain ⟨json, object, -⟩ := Config.settings_of_parse valid
                  exact .inl ⟨_, _, .read chosen read valid object⟩

theorem Configured.unique {others : Settings} {other : Bench}
    (configured : Configured bench named settings after)
    (again : Configured bench named others other) : settings = others ∧ after = other := by
  cases configured with
  | absent nowhere =>
      cases again with
      | absent => exact ⟨rfl, rfl⟩
      | read chosen => cases nowhere.symm.trans chosen
  | read chosen text valid object =>
      cases again with
      | absent nowhere => cases nowhere.symm.trans chosen
      | read chosenAgain textAgain validAgain objectAgain =>
          cases chosen.symm.trans chosenAgain
          cases text.symm.trans textAgain
          cases object.symm.trans objectAgain
          exact ⟨rfl, rfl⟩

theorem Configured.not_misconfigured (configured : Configured bench named settings after) :
    ¬Misconfigured bench named failure := by
  intro misconfigured
  cases configured with
  | absent nowhere =>
      cases misconfigured with
      | unreadable chosen => cases nowhere.symm.trans chosen
      | invalid chosen => cases nowhere.symm.trans chosen
  | read chosen text valid =>
      cases misconfigured with
      | unreadable chosenAgain unread =>
          cases chosen.symm.trans chosenAgain
          cases text.symm.trans unread
      | invalid chosenAgain textAgain invalid =>
          cases chosen.symm.trans chosenAgain
          cases text.symm.trans textAgain
          cases valid.symm.trans invalid

theorem Configured.quiet (configured : Configured bench named settings after) :
    Quiet bench after := by
  cases configured with
  | absent => exact .refl bench
  | read chosen text valid object => exact quiet_of_readText text

theorem ends_findConfig {path : String} {result : Except Failure Config}
    (chosen : bench.configPath? named = some path)
    (loads : Ends (Command.loadConfig path) bench result after) :
    Ends (Command.findConfig named) bench result after := by
  cases named with
  | some path =>
      cases chosen
      exact loads
  | none =>
      dsimp only [configPath?] at chosen
      split at chosen
      · next there =>
          cases chosen
          refine .bind (ends_workingDirectory bench) (.bind (ends_fileExists bench _) ?_)
          rw [if_pos there]
          exact loads
      · cases chosen

theorem ends_findConfig_nowhere (nowhere : bench.configPath? named = none) :
    Ends (Command.findConfig named) bench (.ok {}) bench := by
  cases named with
  | some path => cases nowhere
  | none =>
      dsimp only [configPath?] at nowhere
      split at nowhere
      · cases nowhere
      · next missing =>
          refine .bind (ends_workingDirectory bench) (.bind (ends_fileExists bench _) ?_)
          rw [if_neg missing]
          exact ends_pure _

theorem Configured.ends_findConfig (configured : Configured bench named settings after) :
    Ends (Command.findConfig named) bench (.ok settings.config) after := by
  cases configured with
  | absent nowhere => exact ends_findConfig_nowhere nowhere
  | @read path source config json after chosen text valid object =>
      have same : config = (Settings.ofJson json).config := by
        obtain ⟨other, parsed, same⟩ := Config.settings_of_parse valid
        rw [object] at parsed
        cases parsed
        exact same
      rw [← same]
      exact Bench.ends_findConfig chosen
        (.bind (ends_orFail _ text) (ends_orFail _ (run_pure_of_eq valid after)))

theorem Misconfigured.ends_findConfig (misconfigured : Misconfigured bench named failure) :
    ∃ after, Ends (Command.findConfig named) bench (.error failure) after ∧ Quiet bench after := by
  cases misconfigured with
  | unreadable chosen unread =>
      exact ⟨_, Bench.ends_findConfig chosen (.bind_error (ends_orFail_error _ unread)),
        quiet_of_readText unread⟩
  | invalid chosen text invalid =>
      exact ⟨_, Bench.ends_findConfig chosen
        (.bind (ends_orFail _ text) (ends_orFail_error _ (run_pure_of_eq invalid _))),
        quiet_of_readText text⟩

/-! ### The scope -/

/-- All that declarations are made from can be read: the settings, and a scope. -/
inductive Ready (bench : Bench) (arguments : DeclarationsArguments) :
    Settings → Scope → Bench → Prop
  | intro {settings : Settings} {scope : Scope} {middle after : Bench} {source : String}
      (configured : Configured bench arguments.config settings middle)
      (text : (readSource ⟨arguments.input⟩).run middle = (.ok source, after))
      (valid : Scope.parse source = .ok scope) :
      Ready bench arguments settings scope after

/-- Something that declarations are made from cannot be read: the configuration, or with
settings at hand the scope. -/
inductive Refused (bench : Bench) (arguments : DeclarationsArguments) : Failure → Prop
  | config {failure : Failure} (misconfigured : Misconfigured bench arguments.config failure) :
      Refused bench arguments failure
  | unreadable {settings : Settings} {middle after : Bench} {error : FileError}
      (configured : Configured bench arguments.config settings middle)
      (unread : (readSource ⟨arguments.input⟩).run middle = (.error error, after)) :
      Refused bench arguments (.unreadableScope ⟨arguments.input⟩ error)
  | invalid {settings : Settings} {middle after : Bench} {source : String} {error : ScopeError}
      (configured : Configured bench arguments.config settings middle)
      (text : (readSource ⟨arguments.input⟩).run middle = (.ok source, after))
      (invalid : Scope.parse source = .error error) :
      Refused bench arguments (.invalidScope ⟨arguments.input⟩ error)

variable {arguments : DeclarationsArguments} {scope : Scope}

theorem ready_or_refused (bench : Bench) (arguments : DeclarationsArguments) :
    (∃ settings scope after, Ready bench arguments settings scope after) ∨
      ∃ failure, Refused bench arguments failure := by
  rcases configured_or_misconfigured bench arguments.config with
    ⟨settings, middle, configured⟩ | ⟨failure, misconfigured⟩
  · cases read : (readSource ⟨arguments.input⟩).run middle with
    | mk answer after =>
        cases answer with
        | error error => exact .inr ⟨_, .unreadable configured read⟩
        | ok source =>
            cases valid : Scope.parse source with
            | error error => exact .inr ⟨_, .invalid configured read valid⟩
            | ok scope => exact .inl ⟨_, _, _, .intro configured read valid⟩
  · exact .inr ⟨failure, .config misconfigured⟩

theorem Ready.unique {others : Settings} {another : Scope} {other : Bench}
    (ready : Ready bench arguments settings scope after)
    (again : Ready bench arguments others another other) :
    settings = others ∧ scope = another ∧ after = other := by
  obtain ⟨configured, text, valid⟩ := ready
  obtain ⟨configuredAgain, textAgain, validAgain⟩ := again
  obtain ⟨rfl, rfl⟩ := configured.unique configuredAgain
  cases text.symm.trans textAgain
  cases valid.symm.trans validAgain
  exact ⟨rfl, rfl, rfl⟩

theorem Ready.not_refused (ready : Ready bench arguments settings scope after) :
    ¬Refused bench arguments failure := by
  intro refused
  obtain ⟨configured, text, valid⟩ := ready
  cases refused with
  | config misconfigured => exact configured.not_misconfigured misconfigured
  | unreadable configuredAgain unread =>
      obtain ⟨-, rfl⟩ := configured.unique configuredAgain
      cases text.symm.trans unread
  | invalid configuredAgain textAgain invalid =>
      obtain ⟨-, rfl⟩ := configured.unique configuredAgain
      cases text.symm.trans textAgain
      cases valid.symm.trans invalid

theorem Ready.quiet (ready : Ready bench arguments settings scope after) : Quiet bench after := by
  obtain ⟨configured, text, -⟩ := ready
  exact configured.quiet.trans (quiet_of_readSource text)

theorem Refused.ends_writeDeclarations (refused : Refused bench arguments failure) :
    ∃ after, Ends (Command.writeDeclarations arguments) bench (.error failure) after ∧
      Quiet bench after := by
  cases refused with
  | config misconfigured =>
      obtain ⟨after, ends, quiet⟩ := misconfigured.ends_findConfig
      exact ⟨after, .bind_error ends, quiet⟩
  | unreadable configured unread =>
      exact ⟨_, .bind configured.ends_findConfig
        (.bind_error (.bind_error (ends_orFail_error _ unread))),
        configured.quiet.trans (quiet_of_readSource unread)⟩
  | invalid configured text invalid =>
      exact ⟨_, .bind configured.ends_findConfig
        (.bind_error (.bind (ends_orFail _ text) (ends_orFail_error _ (run_pure_of_eq invalid _)))),
        configured.quiet.trans (quiet_of_readSource text)⟩

/-! ### The document -/

/-- The options of the document: the root name that is asked for, else that of the
configuration, else the default. -/
def options (arguments : DeclarationsArguments) (settings : Settings) : Options where
  rootName := (arguments.rootName <|> settings.rootName).getD "RootObject"
  indent := settings.indent.getD "  "

/-- The file that the document goes to, seen from a directory; none if it is printed. -/
def target (directory : String) (arguments : DeclarationsArguments) (settings : Settings) :
    Option String :=
  match arguments.toOutput, arguments.out, settings.outFile with
  | true, _, _ => none
  | false, some path, _ => some path
  | false, none, some file => some (Path.join directory file)
  | false, none, none => none

/-- The document is in one place, on standard output or in the file. -/
def Delivered (before after : Bench) (text : String) : Option String → Prop
  | none => after.output = before.output ++ text ∧ after.directory = before.directory
  | some path => after.output = before.output ∧
      before.directory.Stored after.directory path text.toUTF8

theorem chooseOptions_config (arguments : DeclarationsArguments) (settings : Settings) :
    Command.chooseOptions settings.config arguments.rootName = options arguments settings := by
  unfold Command.chooseOptions options
  cases arguments.rootName <;> rfl

theorem chooseFile_config (arguments : DeclarationsArguments) (settings : Settings)
    (directory : String) :
    Command.chooseFile arguments settings.config directory =
      target directory arguments settings := by
  unfold Command.chooseFile target
  cases arguments.toOutput <;> cases arguments.out <;> cases settings with
  | mk rootName indent outFile => cases outFile <;> rfl

theorem achieves_deliver {path : String} (writable : bench.directory.IsWritable path)
    (text : String) :
    Achieves (Command.deliver path text) bench fun after =>
      Delivered bench after text (some path) := by
  unfold Directory.IsWritable at writable
  unfold Command.deliver
  cases above : Path.parent? path with
  | some parent =>
      rw [above] at writable
      obtain ⟨made, takes⟩ := writable
      let directory := (bench.directory.makeDirectories parent).2
      have makes : (Shell.makeDirectories parent : StateM Bench _).run bench =
          (.ok (), { bench with directory }) := by
        rw [← made]
        rfl
      obtain ⟨place, destination, writes⟩ :=
        @writeText_of_takesFile { bench with directory } path takes text
      refine ⟨_, .bind (ends_orFail _ makes) (ends_orFail _ writes), rfl, ?_⟩
      dsimp only
      exact Directory.stored_put (Directory.grows_makeDirectories _ _) destination _
  | none =>
      rw [above] at writable
      obtain ⟨place, destination, writes⟩ := writeText_of_takesFile writable text
      refine ⟨_, .bind (ends_pure _) (ends_orFail _ writes), rfl, ?_⟩
      dsimp only
      exact Directory.stored_put (.refl _) destination _

theorem Quiet.delivered (quiet : Quiet bench middle) {text : String} {path? : Option String}
    (delivered : Delivered middle after text path?) : Delivered bench after text path? := by
  cases path? with
  | none =>
      obtain ⟨printed, same⟩ := delivered
      exact ⟨quiet.output ▸ printed, same.trans quiet.directory⟩
  | some path =>
      obtain ⟨silent, stored⟩ := delivered
      exact ⟨silent.trans quiet.output, quiet.directory ▸ stored⟩

/-- Printed, or in its file, the document is delivered. -/
theorem Ready.achieves_writeDeclarations {last : Bench}
    (ready : Ready bench arguments settings scope last)
    (writable : ∀ path, target bench.directory.work.path arguments settings = some path →
      bench.directory.IsWritable path) :
    Achieves (Command.writeDeclarations arguments) bench fun after =>
      Delivered bench after (Document.ofScope (options arguments settings) scope).text
        (target bench.directory.work.path arguments settings) := by
  have quiet := ready.quiet
  obtain ⟨configured, text, valid⟩ := ready
  have loads : Ends (Command.loadScope arguments.input) _ (.ok scope) last :=
    .bind (ends_orFail _ text) (ends_orFail _ (run_pure_of_eq valid last))
  refine configured.ends_findConfig.achieves
    (loads.achieves ((ends_workingDirectory last).achieves ?_))
  rw [chooseOptions_config, chooseFile_config, quiet.directory]
  cases goal : target bench.directory.work.path arguments settings with
  | none => exact ⟨_, ends_say last _, quiet.delivered ⟨rfl, rfl⟩⟩
  | some path =>
      have takes : last.directory.IsWritable path := quiet.directory ▸ writable path goal
      obtain ⟨after, ends, delivered⟩ := achieves_deliver takes
        (Document.ofScope (options arguments settings) scope).text
      exact ⟨_, .bind ends rfl, quiet.delivered delivered⟩

theorem Ready.delivers {line : List String} {last : Bench}
    (ready : Ready bench arguments settings scope last)
    (asked : Request.read line = some (.run (.declarations arguments)))
    (writable : ∀ path, target bench.directory.work.path arguments settings = some path →
      bench.directory.IsWritable path) :
    ∃ after, (execute line : StateM Bench Nat).run bench = (0, after) ∧
      Delivered bench after (Document.ofScope (options arguments settings) scope).text
        (target bench.directory.work.path arguments settings) := by
  obtain ⟨after, ends, delivered⟩ := ready.achieves_writeDeclarations writable
  exact ⟨after, execute_of_ends asked ends, delivered⟩

/-- Declarations are delivered whole or not at all: if something that they are made from cannot
be read, the command fails and leaves everything as it was; otherwise it delivers them, if the
file that they go to can be written. A device that they are sent to, such as `/dev/stdout`, is
not a file, and nothing is said of it. -/
theorem delivers_all_or_nothing {bench : Bench} {line : List String}
    {arguments : DeclarationsArguments}
    (asked : Request.read line = some (.run (.declarations arguments))) :
    (∀ failure, Refused bench arguments failure →
      ∃ after, (execute line : StateM Bench Nat).run bench = (1, after) ∧
        after.output = bench.output ∧ after.directory = bench.directory) ∧
    ((∀ failure, ¬Refused bench arguments failure) →
      ∃ settings scope last, Ready bench arguments settings scope last ∧
        ((∀ path, target bench.directory.work.path arguments settings = some path →
            bench.directory.IsWritable path) →
          ∃ after, (execute line : StateM Bench Nat).run bench = (0, after) ∧
            Delivered bench after (Document.ofScope (options arguments settings) scope).text
              (target bench.directory.work.path arguments settings))) := by
  constructor
  · intro failure refused
    obtain ⟨after, ends, quiet⟩ := refused.ends_writeDeclarations
    exact ⟨_, execute_of_fails asked ends, quiet.output, quiet.directory⟩
  · intro unrefused
    obtain ⟨settings, scope, last, ready⟩ :=
      (ready_or_refused bench arguments).resolve_right fun ⟨failure, refused⟩ =>
        unrefused failure refused
    exact ⟨settings, scope, last, ready, ready.delivers asked⟩

/-- A configuration whose declarations go to a directory that may have to be made. -/
def generating : Config := ⟨{ rootName := "Page" }, some "gen/types.d.ts"⟩

def ada : Scope := ⟨[("user", .object [("name", .string "Ada")])]⟩

/-- A working directory with a configuration and a scope. -/
def project : Bench where
  directory := {
    name := "/work"
    nodes := (Shelf.empty.insert Config.fileName (.file generating.toJson.pretty.toUTF8)).insert
      "scope.json" (.file (Json.object ada.entries).pretty.toUTF8) }

theorem project_find {path text : String}
    (passes : path ≠ "" ∧ '\x00' ∉ path.toList ∧ path.utf8ByteSize ≤ Directory.longestPath)
    (noSlash : Path.endsWithSlash path = false)
    (walks : project.directory.walk (project.directory.begin path) (Path.parts path) =
      .ok ((project.directory.begin path).follow (Path.parts path)))
    (there : project.directory.nodeAt ((project.directory.begin path).follow (Path.parts path)) =
      some (.file text.toUTF8)) :
    (readText path).run project = (.ok text, project) ∧ project.directory.isThere path = true := by
  have found : project.directory.find path = .ok (.file text.toUTF8) := by
    refine Directory.find_of_locate ?_ there
    rw [Directory.locate_eq_walk (Directory.vet_eq_ok_iff.2 passes) noSlash, walks]
  refine ⟨?_, Directory.isThere_of_find found⟩
  rw [readText_of_find found, decodeText_toUTF8]

theorem project_ready :
    Ready project { input := "scope.json" } (.ofJson generating.toJson) ada project := by
  obtain ⟨configText, configThere⟩ := @project_find "/work/scopetype.config.json"
    generating.toJson.pretty (by decide +kernel) (by decide +kernel) (by decide +kernel) (by rfl)
  obtain ⟨scopeText, -⟩ := @project_find "scope.json" (Json.object ada.entries).pretty
    (by decide +kernel) (by decide +kernel) (by decide +kernel) (by rfl)
  have path : Path.join project.directory.work.path Config.fileName =
      "/work/scopetype.config.json" := by decide +kernel
  have chosen : project.configPath? none = some "/work/scopetype.config.json" := by
    rw [configPath?_of_isThere (path ▸ configThere), path]
  refine .intro (.read chosen configText (Config.parse_pretty generating)
    (Config.fits_toJson generating).parse_pretty) scopeText ?_
  have fits : Json.Fits Json.Reader.depthLimit (.object ada.entries) :=
    .single "user" (.single "name" (.string "Ada"))
  rw [Scope.parse, fits.parse_pretty]
  rfl

theorem project_isWritable : project.directory.IsWritable "/work/gen/types.d.ts" := by
  have above : Path.parent? "/work/gen/types.d.ts" = some "/work/gen" := by decide +kernel
  have makes : project.directory.makeDirectories "/work/gen" =
      project.directory.makeAll .root (Path.parts "/work/gen").reverse := by
    have passes : Directory.vet "/work/gen" = .ok () :=
      Directory.vet_eq_ok_iff.2 (by decide +kernel)
    rw [Directory.makeDirectories, passes]
    rfl
  rw [Directory.IsWritable, above]
  dsimp only
  rw [makes]
  refine ⟨by decide +kernel, Directory.takesFile_of_absent
    (Place.root.follow (Path.parts "/work/gen/types.d.ts")) (Directory.destination_eq_ok_iff.2
      ⟨Path.parts "/work/gen", ⟨"types.d.ts", by decide⟩,
        Place.root.follow (Path.parts "/work/gen"), Directory.vet_eq_ok_iff.2 (by decide +kernel),
        by decide +kernel, by decide +kernel, by decide +kernel, by decide +kernel,
        by decide +kernel⟩) (by decide +kernel)⟩

theorem project_delivers :
    ∃ after, (execute ["declarations", "scope.json"] : StateM Bench Nat).run project = (0, after) ∧
      after.output = "" ∧
      project.directory.Stored after.directory "/work/gen/types.d.ts"
        (Document.ofScope { rootName := "Page" } ada).text.toUTF8 := by
  have asked : Request.read ["declarations", "scope.json"] =
    some (.run (.declarations { input := "scope.json" })) := by rfl
  obtain ⟨settings, scope, last, ready, delivers⟩ :=
    (delivers_all_or_nothing asked).2 fun failure => project_ready.not_refused
  obtain ⟨rfl, rfl, rfl⟩ := project_ready.unique ready
  have goal : target project.directory.work.path { input := "scope.json" }
      (.ofJson generating.toJson) = some "/work/gen/types.d.ts" := by decide +kernel
  rw [goal] at delivers
  obtain ⟨after, exits, silent, stored⟩ := delivers fun path same => by
    rw [← Option.some.inj same]
    exact project_isWritable
  exact ⟨after, exits, silent, stored⟩

end Bench

end LiveScope
