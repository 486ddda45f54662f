/- # LiveScope.Proofs.Command.Bench — programs on a bench

`Ends program bench result after` says that a program, started on a bench, comes to an end
with a result and leaves another bench. The rules follow the program: it goes on after a
success (`Ends.bind`) and stops at a failure (`Ends.bind_error`). `Achieves` says of the
bench that is left only what is wanted of it, so that it need not be written down.

What the requests do:

* reading, from wherever it is, uses up input and changes nothing else (`Quiet`);
* writing to a path that takes a file puts the file there (`writeText_of_takesFile`);
* the text of a file is read back from it (`readText_of_find`, `decodeText_toUTF8`).
-/
import LiveScope.Command.Run
import LiveScope.Proofs.Command.Directory

namespace LiveScope

set_option autoImplicit false

open Command (Failure Source orFail)

/-! ### Programs -/

/-- Started on a bench, a program ends with a result and leaves a bench. -/
def Ends {α : Type} (program : ExceptT Failure (StateM Bench) α) (bench : Bench)
    (result : Except Failure α) (after : Bench) : Prop :=
  program.run.run bench = (result, after)

section Programs

variable {α β : Type} {program : ExceptT Failure (StateM Bench) α}
  {next : α → ExceptT Failure (StateM Bench) β} {bench middle after : Bench}

theorem ends_pure (value : α) : Ends (pure value) bench (.ok value) bench := rfl

theorem Ends.bind {value : α} {result : Except Failure β}
    (first : Ends program bench (.ok value) middle)
    (goesOn : Ends (next value) middle result after) :
    Ends (program >>= next) bench result after := by
  unfold Ends at first goesOn ⊢
  rw [ExceptT.run_bind, StateT.run_bind, first]
  exact goesOn

theorem Ends.bind_error {failure : Failure} (first : Ends program bench (.error failure) after) :
    Ends (program >>= next) bench (.error failure) after := by
  unfold Ends at first ⊢
  rw [ExceptT.run_bind, StateT.run_bind, first]
  rfl

variable {ε : Type} {answer : StateM Bench (Except ε α)}

theorem ends_orFail {value : α} (failure : ε → Failure)
    (answers : answer.run bench = (.ok value, after)) :
    Ends (orFail failure answer) bench (.ok value) after := by
  unfold Ends orFail
  rw [ExceptT.run_mk, StateT.run_bind, answers]
  rfl

theorem ends_orFail_error {error : ε} (failure : ε → Failure)
    (answers : answer.run bench = (.error error, after)) :
    Ends (orFail failure answer) bench (.error (failure error)) after := by
  unfold Ends orFail
  rw [ExceptT.run_mk, StateT.run_bind, answers]
  rfl

/-- What is only looked at leaves the bench as it is. -/
theorem run_pure_of_eq {found other : Except ε α} (same : found = other) (bench : Bench) :
    (pure found : StateM Bench (Except ε α)).run bench = (other, bench) := by
  rw [same]
  rfl

theorem ends_workingDirectory (bench : Bench) :
    Ends (ExceptT.lift Shell.workingDirectory) bench (.ok bench.directory.work.path) bench := rfl

theorem ends_fileExists (bench : Bench) (path : String) :
    Ends (ExceptT.lift (Shell.fileExists path)) bench (.ok (bench.directory.isThere path)) bench :=
  rfl

theorem ends_say (bench : Bench) (text : String) :
    Ends (Command.say text) bench (.ok ()) { bench with output := bench.output ++ text } := rfl

/-- Started on a bench, a program succeeds and leaves a bench as it is described. -/
def Achieves (program : ExceptT Failure (StateM Bench) Unit) (bench : Bench)
    (goal : Bench → Prop) : Prop :=
  ∃ after, Ends program bench (.ok ()) after ∧ goal after

theorem Ends.achieves {value : α} {rest : α → ExceptT Failure (StateM Bench) Unit}
    {goal : Bench → Prop} (first : Ends program bench (.ok value) middle)
    (goesOn : Achieves (rest value) middle goal) : Achieves (program >>= rest) bench goal := by
  obtain ⟨after, ends, reached⟩ := goesOn
  exact ⟨after, first.bind ends, reached⟩

end Programs

namespace Bench

variable {bench before middle after : Bench} {path text : String}

/-! ### Reading -/

/-- Nothing was written; input may have been used up. -/
structure Quiet (before after : Bench) : Prop where
  directory : after.directory = before.directory
  output : after.output = before.output
  notes : after.notes = before.notes

theorem Quiet.refl (bench : Bench) : Quiet bench bench := ⟨rfl, rfl, rfl⟩

theorem Quiet.trans (first : Quiet before middle) (second : Quiet middle after) :
    Quiet before after :=
  ⟨second.directory.trans first.directory, second.output.trans first.output,
    second.notes.trans first.notes⟩

variable {answer : Except FileError String}

theorem quiet_of_readInput (read : readInput.run bench = (answer, after)) : Quiet bench after := by
  cases read
  exact ⟨rfl, rfl, rfl⟩

theorem readText_run (bench : Bench) (path : String) :
    (readText path).run bench =
      match bench.directory.find path with
      | .error error => (.error error, bench)
      | .ok .directory => (.error .isDirectory, bench)
      | .ok (.file content) => (decodeText content, bench)
      | .ok (.device device) => (readDevice device).run bench := by
  simp only [readText, StateT.run_bind, StateT.run_get, pure_bind]
  rcases bench.directory.find path with _ | _ | _ | _ <;> rfl

theorem quiet_of_readText (read : (readText path).run bench = (answer, after)) :
    Quiet bench after := by
  rw [readText_run] at read
  split at read
  · cases read
    exact .refl bench
  · cases read
    exact .refl bench
  · cases read
    exact .refl bench
  · next device _ =>
      cases device with
      | input => exact quiet_of_readInput read
      | _ =>
          cases read
          exact .refl bench

theorem readText_of_find {content : ByteArray}
    (found : bench.directory.find path = .ok (.file content)) :
    (readText path).run bench = (decodeText content, bench) := by
  rw [readText_run, found]

/-- The bytes of a text are read as that text. -/
theorem decodeText_toUTF8 (text : String) : decodeText text.toUTF8 = .ok text := by
  have decoded : String.fromUTF8? text.toUTF8 = some text := by
    unfold String.fromUTF8?
    split
    · rfl
    · next invalid => exact absurd text.isValidUTF8 invalid
  rw [decodeText, decoded]

/-- Where the scope's text is read. -/
def readSource (source : Source) : StateM Bench (Except FileError String) :=
  if source.isInput then readInput else readText source.operand

theorem quiet_of_readSource {source : Source}
    (read : (readSource source).run bench = (answer, after)) : Quiet bench after := by
  unfold readSource at read
  split at read
  · exact quiet_of_readInput read
  · exact quiet_of_readText read

/-! ### Writing -/

theorem writeText_run (bench : Bench) (path text : String) :
    (writeText path text).run bench =
      match bench.directory.destination path with
      | .error error => (.error error, bench)
      | .ok place =>
          match bench.directory.nodeAt place with
          | some (.device device) => (.ok (), ((writeDevice text device).run bench).2)
          | _ => (.ok (),
              { bench with directory := bench.directory.put place (.file text.toUTF8) }) := by
  simp only [writeText, StateT.run_bind, StateT.run_get, pure_bind]
  cases bench.directory.destination path with
  | error error => rfl
  | ok place =>
      dsimp only
      rcases bench.directory.nodeAt place with _ | _ | _ | _ <;> rfl

/-- A text that is written where a file can be is put there. -/
theorem writeText_of_takesFile (takes : bench.directory.TakesFile path) (text : String) :
    ∃ place, bench.directory.destination path = .ok place ∧
      (writeText path text).run bench =
        (.ok (), { bench with directory := bench.directory.put place (.file text.toUTF8) }) := by
  obtain ⟨place, writable, noDevice⟩ := takes
  refine ⟨place, writable, ?_⟩
  rw [writeText_run, writable]
  dsimp only
  split
  · next device there => exact absurd there (noDevice device)
  · rfl

theorem achieves_writeText {failure : FileError → Failure}
    {rest : Unit → ExceptT Failure (StateM Bench) Unit} {goal : Bench → Prop}
    (takes : bench.directory.TakesFile path)
    (goesOn : ∀ place, bench.directory.destination path = .ok place → Achieves (rest ())
      { bench with directory := bench.directory.put place (.file text.toUTF8) } goal) :
    Achieves (orFail failure (Shell.writeText path text) >>= rest) bench goal := by
  obtain ⟨place, writable, writes⟩ := writeText_of_takesFile takes text
  exact (ends_orFail failure writes).achieves (goesOn place writable)

end Bench

/-! ### Command lines -/

section Lines

variable {line : List String} {command : Command} {bench after : Bench}

theorem execute_of_ends (asked : Request.read line = some (.run command))
    (ends : Ends command.run bench (.ok ()) after) :
    (execute line : StateM Bench Nat).run bench = (0, after) := by
  unfold execute Ends at *
  rw [asked, StateT.run_bind, ends]
  rfl

/-- A failure is told on standard error. -/
theorem execute_of_fails {failure : Failure} (asked : Request.read line = some (.run command))
    (ends : Ends command.run bench (.error failure) after) :
    (execute line : StateM Bench Nat).run bench =
      (1, { after with notes := after.notes ++ ("\nError: " ++ failure.message ++ "\n\n") }) := by
  unfold execute Ends at *
  rw [asked, StateT.run_bind, ends]
  rfl

end Lines

end LiveScope
