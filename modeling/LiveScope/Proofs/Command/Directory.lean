/- # LiveScope.Proofs.Command.Directory — what writing does to a tree

A path is taken apart into its parts, and a path that is put together from names has those
names as its parts (`Path.parts_ofNames`). So what is kept under a path is kept for one
place (`slot_inj`), and what is put at a place changes no other (`nodeAt_put`).

A walk ends where its parts lead if there is nothing in the way (`follow_of_walk`).
So a path that leads anywhere has one place, which its parts alone say (`place_of_locate`),
and a path that is joined to that of the working directory leads where it leads without it
(`locate_join`).

Two kinds of change are ever made: a directory is made where there was nothing, and a
file is put where there was no directory. Neither takes a directory away (`Keeps`), so
every path that could be walked can still be walked (`walk_of_keeps`).

* `destination_eq_ok_iff` says which paths can be written to; such a path leads to its
  destination when it is read (`locate_of_destination`), and once a file is put there
  the file is found under it (`find_put`).
* Making directories adds directories and nothing else (`grows_makeDirectories`).
-/
import LiveScope.Command.Directory
import LiveScope.Proofs.Keys
import Mathlib.Data.List.Basic

namespace LiveScope

set_option autoImplicit false

/-! ### Parts of paths -/

namespace Path

theorem splitSlashes_ne_nil (text : List Char) : splitSlashes text ≠ [] := by
  cases text with
  | nil => simp [splitSlashes]
  | cons c rest =>
      simp only [splitSlashes]
      split
      · simp
      · split <;> simp

theorem splitSlashes_append (front back : List Char) :
    splitSlashes (front ++ '/' :: back) = splitSlashes front ++ splitSlashes back := by
  induction front with
  | nil =>
      cases text : splitSlashes back with
      | nil => exact absurd text (splitSlashes_ne_nil back)
      | cons part parts =>
          simp only [List.nil_append, splitSlashes, text, if_true, List.cons_append]
  | cons c rest ih =>
      simp only [List.cons_append, splitSlashes, ih]
      cases text : splitSlashes rest with
      | nil => exact absurd text (splitSlashes_ne_nil rest)
      | cons part parts =>
          simp only [List.cons_append]
          split <;> rfl

theorem splitSlashes_of_plain {text : List Char} (plain : '/' ∉ text) :
    splitSlashes text = [text] := by
  induction text with
  | nil => rfl
  | cons c rest ih =>
      obtain ⟨noSlash, restPlain⟩ := not_or.1 (mt List.mem_cons.2 plain)
      simp only [splitSlashes, ih restPlain, if_neg (Ne.symm noSlash)]

theorem parts_append (front back : String) :
    parts (front ++ "/" ++ back) = parts front ++ parts back := by
  have text : (front ++ "/" ++ back).toList = front.toList ++ '/' :: back.toList := by
    simp only [String.toList_append, List.append_assoc]
    rfl
  rw [parts, text, splitSlashes_append, List.filterMap_append]
  rfl

theorem parts_text (name : Name) : parts name.text = [.named name] := by
  obtain ⟨text, isName⟩ := name
  obtain ⟨-, notDot, notDots, plain⟩ := id isName
  simp only [parts, splitSlashes_of_plain plain, List.filterMap_cons, List.filterMap_nil,
    String.ofList_toList, Part.ofText?, notDot, notDots, if_false, dif_pos isName]

theorem parts_ofNames (names : List Name) : parts (ofNames names) = names.map .named := by
  induction names with
  | nil => rfl
  | cons first rest ih =>
      cases rest with
      | nil => exact parts_text first
      | cons second later =>
          have text : ofNames (first :: second :: later) =
              first.text ++ "/" ++ ofNames (second :: later) := by
            simp only [ofNames, List.map_cons, String.intercalate_cons_cons]
          rw [text, parts_append, parts_text, ih]
          rfl

theorem isAbsolute_text (name : Name) : isAbsolute name.text = false := by
  refine Bool.eq_false_iff.2 fun absolute => ?_
  exact name.isName.2.2.2 (List.mem_of_mem_head? (beq_iff_eq.1 absolute))

/-- The texts of joined paths are joined. -/
theorem exists_join (directory path : String) : ∃ front, join directory path = front ++ path := by
  unfold join
  split
  · exact ⟨"", String.empty_append.symm⟩
  · split
    · exact ⟨directory, rfl⟩
    · exact ⟨directory ++ "/", rfl⟩

theorem isAbsolute_join {directory : String} (absolute : isAbsolute directory = true)
    (path : String) : isAbsolute (join directory path) = true := by
  have begins (more : String) : isAbsolute (directory ++ more) = true := by
    have first := beq_iff_eq.1 absolute
    rw [isAbsolute, String.toList_append, List.head?_append, first]
    rfl
  unfold join
  split
  · assumption
  · split
    · exact begins path
    · rw [String.append_assoc]
      exact begins _

theorem parts_join {path : String} (relative : isAbsolute path = false) (directory : String) :
    parts (join directory path) = parts directory ++ parts path := by
  rw [join, relative, if_neg Bool.false_ne_true]
  split
  · next slash =>
      obtain ⟨front, text⟩ := List.getLast?_eq_some_iff.1 (beq_iff_eq.1 slash)
      have ended : directory = String.ofList front ++ "/" ++ "" := by
        rw [← String.toList_inj, text]
        simp
      have fronts := parts_append (String.ofList front) ""
      rw [← ended] at fronts
      rw [fronts, ended, String.append_empty, parts_append]
      simp [parts, splitSlashes, Part.ofText?, IsName]
  · exact parts_append directory path

theorem endsWithSlash_append (front : String) {path : String} (filled : path ≠ "") :
    endsWithSlash (front ++ path) = endsWithSlash path := by
  have notNil : path.toList ≠ [] := fun nil => filled (String.toList_eq_nil_iff.1 nil)
  rw [endsWithSlash, endsWithSlash, String.toList_append, List.getLast?_append_of_ne_nil _ notNil]

theorem ofNames_inj {names others : List Name} (same : ofNames names = ofNames others) :
    names = others := by
  have parted := congrArg parts same
  rw [parts_ofNames, parts_ofNames] at parted
  exact List.map_injective_iff.2 (fun _ _ => Part.named.inj) parted

end Path

/-! ### Places -/

namespace Place

theorem follow_append (here : Place) (front back : List Path.Part) :
    here.follow (front ++ back) = (here.follow front).follow back :=
  List.foldl_append

theorem follow_named (here : Place) (names : List Path.Name) :
    here.follow (names.map .named) = ⟨here.names ++ names⟩ := by
  induction names generalizing here with
  | nil => simp [follow]
  | cons name rest ih =>
      rw [List.map_cons, follow, List.foldl_cons]
      exact (ih _).trans (by simp [step])

theorem step_named_inj {here : Place} {name other : Path.Name}
    (same : here.step (.named name) = here.step (.named other)) : name = other := by
  simpa [step] using same

theorem parts_path (place : Place) : Path.parts place.path = place.names.map .named := by
  have text : place.path = "" ++ "/" ++ Path.ofNames place.names := by
    rw [path, String.empty_append]
  rw [text, Path.parts_append, Path.parts_ofNames]
  rfl

theorem isAbsolute_path (place : Place) : Path.isAbsolute place.path = true := by
  rw [Path.isAbsolute, path, String.toList_append]
  rfl

theorem path_inj {place other : Place} (same : place.path = other.path) : place = other := by
  obtain ⟨names⟩ := place
  obtain ⟨others⟩ := other
  exact congrArg Place.mk (Path.ofNames_inj ((String.append_right_inj _).1 same))

end Place

namespace Directory

open LiveScope.Path (Part)

/-! ### What is kept at a place -/

variable {directory before after : Directory} {place other : Place} {node : Node}

theorem slot_inj (same : directory.slot place = directory.slot other) : place = other := by
  unfold slot at same
  split at same <;> split at same
  · next below inside _ otherBelow otherInside =>
      rw [List.isPrefixOf?_eq_some_iff_append_eq] at inside otherInside
      rw [Path.ofNames_inj (Slot.inside.inj same), otherInside] at inside
      obtain ⟨names⟩ := place
      exact congrArg Place.mk inside.symm
  · cases same
  · cases same
  · exact Place.path_inj (Slot.outside.inj same)

@[simp] theorem work_put (directory : Directory) (place : Place) (node : Node) :
    (directory.put place node).work = directory.work := by
  unfold put
  split <;> rfl

theorem kept_put (directory : Directory) (place : Place) (node : Node) (slot : Slot) :
    (directory.put place node).kept slot =
      if slot = directory.slot place then some node else directory.kept slot := by
  unfold put
  cases directory.slot place <;> cases slot <;>
    simp [kept, Shelf.get?_insert, eq_comm]

theorem nodeAt_put (vacant : directory.nodeAt place ≠ some .directory) (node : Node)
    (other : Place) : (directory.put place node).nodeAt other =
      if other = place then some node else directory.nodeAt other := by
  have sameSlot : (directory.put place node).slot other = directory.slot other := by
    rw [slot, slot, work_put]
  unfold nodeAt at vacant ⊢
  rw [work_put, sameSlot, kept_put]
  by_cases above : other.names.isPrefixOf directory.work.names = true
  · have differs : other ≠ place := by
      rintro rfl
      exact vacant (if_pos above)
    rw [if_pos above, if_neg differs, if_pos above]
  · rw [if_neg above, if_neg above]
    by_cases same : other = place
    · rw [if_pos same, if_pos (congrArg _ same)]
    · rw [if_neg same, if_neg fun slots => same (slot_inj slots)]

/-! ### Directories stay -/

/-- Every directory that was there is there. -/
structure Keeps (before after : Directory) : Prop where
  work : after.work = before.work
  directories : ∀ place, before.nodeAt place = some .directory →
    after.nodeAt place = some .directory

/-- Nothing was changed, but directories may have been made where there was nothing. -/
structure Grows (before after : Directory) : Prop where
  work : after.work = before.work
  nodes : ∀ place, after.nodeAt place = before.nodeAt place ∨
    (before.nodeAt place = none ∧ after.nodeAt place = some .directory)

theorem Grows.refl (directory : Directory) : Grows directory directory := ⟨rfl, fun _ => .inl rfl⟩

theorem Grows.trans {middle : Directory} (first : Grows before middle)
    (second : Grows middle after) : Grows before after := by
  refine ⟨second.work.trans first.work, fun place => ?_⟩
  rcases second.nodes place with same | ⟨absent, made⟩
  · rw [same]
    exact first.nodes place
  · rcases first.nodes place with same | ⟨-, earlier⟩
    · exact .inr ⟨same ▸ absent, made⟩
    · rw [absent] at earlier
      cases earlier

theorem grows_put_directory (absent : directory.nodeAt place = none) :
    Grows directory (directory.put place .directory) := by
  refine ⟨work_put _ _ _, fun other => ?_⟩
  rw [nodeAt_put (by rw [absent]; nofun)]
  split
  · next same => exact .inr ⟨same ▸ absent, rfl⟩
  · exact .inl rfl

/-- A file takes the place of no directory. -/
theorem keeps_put (node : Node) (vacant : directory.nodeAt place ≠ some .directory) :
    Keeps directory (directory.put place node) := by
  refine ⟨work_put _ _ _, fun other there => ?_⟩
  rw [nodeAt_put vacant, if_neg]
  · exact there
  · rintro rfl
    exact vacant there

/-! ### Walking -/

theorem walk_cons_of_directory {here : Place} {part : Part} {rest : List Part}
    (there : directory.nodeAt here = some .directory)
    (short : ¬longestPart < part.text.utf8ByteSize) :
    directory.walk here (part :: rest) = directory.walk (here.step part) rest := by
  simp only [walk, there, short, if_false]

/-- What a walk over one part more goes through. -/
theorem of_walk_cons {here found : Place} {part : Part} {rest : List Part}
    (walked : directory.walk here (part :: rest) = .ok found) :
    directory.nodeAt here = some .directory ∧ ¬longestPart < part.text.utf8ByteSize ∧
      directory.walk (here.step part) rest = .ok found := by
  rw [walk] at walked
  split at walked
  · cases walked
  · cases walked
  · cases walked
  · next there =>
      split at walked
      · cases walked
      · next short => exact ⟨there, short, walked⟩

theorem walk_append (directory : Directory) (here : Place) (front back : List Part) :
    directory.walk here (front ++ back) =
      (directory.walk here front).bind fun middle => directory.walk middle back := by
  induction front generalizing here with
  | nil => rfl
  | cons part rest ih =>
      simp only [List.cons_append, walk]
      split
      · rfl
      · rfl
      · rfl
      · split
        · rfl
        · exact ih (here.step part)

theorem follow_of_walk {here found : Place} {parts : List Part}
    (walked : directory.walk here parts = .ok found) : found = here.follow parts := by
  induction parts generalizing here with
  | nil =>
      cases walked
      rfl
  | cons part rest ih =>
      obtain ⟨-, -, later⟩ := of_walk_cons walked
      exact ih later

theorem walk_of_keeps (keeps : Keeps before after) {here found : Place} {parts : List Part}
    (walked : before.walk here parts = .ok found) : after.walk here parts = .ok found := by
  induction parts generalizing here with
  | nil => exact walked
  | cons part rest ih =>
      obtain ⟨there, short, later⟩ := of_walk_cons walked
      rw [walk_cons_of_directory (keeps.directories here there) short]
      exact ih later

theorem vet_eq_ok_iff {path : String} : vet path = .ok () ↔
    path ≠ "" ∧ '\x00' ∉ path.toList ∧ path.utf8ByteSize ≤ longestPath := by
  rw [vet, String.contains_char_eq]
  constructor
  · intro vetted
    split at vetted
    · cases vetted
    · next filled =>
        split at vetted
        · cases vetted
        · next noNul =>
            split at vetted
            · cases vetted
            · next short =>
                exact ⟨by simpa using filled, by simpa using noNul, Nat.not_lt.1 short⟩
  · rintro ⟨filled, noNul, short⟩
    rw [if_neg (by simpa using filled), if_neg (by simpa using noNul), if_neg (Nat.not_lt.2 short)]

theorem begin_of_work (same : after.work = before.work) (path : String) :
    after.begin path = before.begin path := by
  unfold begin
  rw [same]

/-- A path leads to the place that its parts say, whatever else is in the tree. -/
theorem place_of_locate {path : String} (located : directory.locate path = .ok place) :
    place = (directory.begin path).follow (Path.parts path) := by
  obtain ⟨_, -, walked⟩ := ok_of_bind located
  rw [follow_of_walk walked]
  split
  · exact Place.follow_append _ _ _
  · rfl

/-- Five paths that lead to one place. -/
example : (["scope.json", "./a/../scope.json", "../work/scope.json", "/work//scope.json",
      "/../../work/../work/scope.json"].map fun path =>
        (Directory.begin { name := "/work" } path).follow (Path.parts path)) =
    List.replicate 5 (Place.root.follow (Path.parts "/work/scope.json")) := by
  decide +kernel

/-- A path without a slash at its end leads where its parts do. -/
theorem locate_eq_walk {path : String} (vetted : vet path = .ok ())
    (noSlash : Path.endsWithSlash path = false) :
    directory.locate path = directory.walk (directory.begin path) (Path.parts path) := by
  simp only [locate, vetted, Except.bind, noSlash, Bool.false_eq_true, if_false]

theorem find_of_locate {path : String} (located : directory.locate path = .ok place)
    (there : directory.nodeAt place = some node) : directory.find path = .ok node := by
  simp only [find, located, Except.bind, there]

theorem locate_of_keeps (keeps : Keeps before after) {path : String}
    (located : before.locate path = .ok place) : after.locate path = .ok place := by
  obtain ⟨⟨⟩, vetted, walked⟩ := ok_of_bind located
  simp only [locate, vetted, Except.bind, begin_of_work keeps.work]
  exact walk_of_keeps keeps walked

theorem vet_of_append {front path : String} (vetted : vet (front ++ path) = .ok ())
    (filled : path ≠ "") : vet path = .ok () := by
  obtain ⟨-, noNul, short⟩ := vet_eq_ok_iff.1 vetted
  rw [String.utf8ByteSize_append] at short
  refine vet_eq_ok_iff.2 ⟨filled, fun inPath => noNul ?_, by omega⟩
  rw [String.toList_append]
  exact List.mem_append_right _ inPath

/-- From the root to the working directory there is only one way. -/
theorem walk_work {parts : List Part} (walked :
    directory.walk .root (directory.work.names.map .named ++ parts) = .ok place) :
    directory.walk directory.work parts = .ok place := by
  rw [walk_append] at walked
  obtain ⟨middle, toWork, onwards⟩ := ok_of_bind walked
  have same : middle = directory.work := by
    rw [follow_of_walk toWork, Place.follow_named]
    rfl
  rwa [same] at onwards

/-- A path leads where it leads behind the path of the working directory. -/
theorem locate_join {path : String} (filled : path ≠ "")
    (located : directory.locate (Path.join directory.work.path path) = .ok place) :
    directory.locate path = .ok place := by
  by_cases relative : Path.isAbsolute path = false
  · obtain ⟨_, vetted, walked⟩ := ok_of_bind located
    obtain ⟨front, text⟩ := Path.exists_join directory.work.path path
    have fromRoot : directory.begin (Path.join directory.work.path path) = .root :=
      if_pos (Path.isAbsolute_join (Place.isAbsolute_path _) path)
    rw [fromRoot, Path.parts_join relative, Place.parts_path, text,
      Path.endsWithSlash_append front filled] at walked
    rw [text] at vetted
    simp only [locate, vet_of_append vetted filled, Except.bind, begin, relative,
      Bool.false_eq_true, if_false]
    refine walk_work ?_
    split at walked
    · next slash => rwa [if_pos slash, ← List.append_assoc]
    · next noSlash => rwa [if_neg noSlash]
  · rw [Bool.not_eq_false] at relative
    rwa [Path.join, if_pos relative] at located

/-! ### Paths that can be written to -/

/-- A path can be written to if its last part names something other than a directory, in
a directory that is there. -/
theorem destination_eq_ok_iff {path : String} :
    directory.destination path = .ok place ↔
      ∃ above name parent, vet path = .ok () ∧ Path.parts path = above ++ [.named name] ∧
        directory.walk (directory.begin path) (above ++ [.here]) = .ok parent ∧
        Path.endsWithSlash path = false ∧ directory.walk parent [.named name] = .ok place ∧
        directory.nodeAt place ≠ some .directory := by
  constructor
  · intro writable
    obtain ⟨_, vetted, writable⟩ := ok_of_bind writable
    dsimp only at writable
    split at writable
    · cases writable
    · next last atEnd =>
        obtain ⟨above, parts⟩ := List.getLast?_eq_some_iff.1 atEnd
        obtain ⟨parent, walked, writable⟩ := ok_of_bind writable
        rw [parts, List.dropLast_concat] at walked
        split at writable
        · cases writable
        · next plain =>
            simp only [not_or] at plain
            obtain ⟨found, lastWalked, writable⟩ := ok_of_bind writable
            split at writable
            · cases writable
            · next vacant =>
                cases writable
                cases last with
                | here => exact absurd rfl plain.1
                | up => exact absurd rfl plain.2.1
                | named name =>
                    exact ⟨above, name, parent, vetted, parts, walked,
                      Bool.eq_false_iff.2 plain.2.2, lastWalked, vacant⟩
  · rintro ⟨above, name, parent, vetted, parts, walked, noSlash, lastWalked, vacant⟩
    simp only [destination, vetted, Except.bind, parts, List.getLast?_concat, List.dropLast_concat,
      walked, reduceCtorEq, noSlash, lastWalked, vacant, Bool.false_eq_true, or_self, if_false]

/-- Where a path is written to, it leads. -/
theorem locate_of_destination {path : String} (writable : directory.destination path = .ok place) :
    directory.locate path = .ok place := by
  obtain ⟨above, name, parent, vetted, parts, walked, noSlash, lastWalked, -⟩ :=
    destination_eq_ok_iff.1 writable
  rw [walk_append] at walked
  obtain ⟨middle, aboveWalked, stayed⟩ := ok_of_bind walked
  -- the dot behind the parts above only says that they lead to a directory
  obtain ⟨-, -, here⟩ := of_walk_cons stayed
  cases here
  rw [locate_eq_walk vetted noSlash, parts, walk_append, aboveWalked]
  exact lastWalked

theorem destination_of_keeps (keeps : Keeps before after) {path : String}
    (writable : before.destination path = .ok place)
    (vacant : after.nodeAt place ≠ some .directory) : after.destination path = .ok place := by
  obtain ⟨above, name, parent, vetted, parts, walked, noSlash, lastWalked, -⟩ :=
    destination_eq_ok_iff.1 writable
  rw [← begin_of_work keeps.work] at walked
  exact destination_eq_ok_iff.2 ⟨above, name, parent, vetted, parts, walk_of_keeps keeps walked,
    noSlash, walk_of_keeps keeps lastWalked, vacant⟩

/-- What is written under the name of a file in the working directory is that file. -/
theorem place_of_destination_join {name : Path.Name}
    (writable : directory.destination (Path.join directory.work.path name.text) = .ok place) :
    place = directory.work.step (.named name) := by
  have located := locate_join name.isName.1 (locate_of_destination writable)
  rw [place_of_locate located, begin, Path.isAbsolute_text, if_neg Bool.false_ne_true,
    Path.parts_text]
  rfl

theorem vacant_of_destination {path : String} (writable : directory.destination path = .ok place) :
    directory.nodeAt place ≠ some .directory := by
  obtain ⟨_, _, _, -, -, -, -, -, vacant⟩ := destination_eq_ok_iff.1 writable
  exact vacant

/-! ### Making directories -/

theorem grows_makeOne {start : Place} {parts : List Part}
    (made : before.makeOne start parts = .ok after) : Grows before after := by
  obtain ⟨place, -, made⟩ := ok_of_bind made
  split at made
  · next absent =>
      cases made
      exact grows_put_directory absent
  · cases made

/-- Whether it succeeds or not, making directories adds directories and nothing else. -/
theorem grows_makeAll (directory : Directory) (start : Place) (parts : List Part) :
    Grows directory (directory.makeAll start parts).2 := by
  induction parts generalizing directory with
  | nil => exact .refl directory
  | cons part above ih =>
      have settled (made : Directory) (error : FileError) (parts : List Part) :
          (if made.isDirectoryAt start parts then ((.ok () : Except FileError Unit), made)
            else (.error error, made)).2 = made := by split <;> rfl
      simp only [makeAll]
      split
      · next made one => exact grows_makeOne one
      · split
        · next error made all =>
            have grows := ih directory
            rwa [all] at grows
        · next made all =>
            have grows := ih directory
            rw [all] at grows
            split
            · next finished one => exact grows.trans (grows_makeOne one)
            · rwa [settled]
      · rw [settled]
        exact .refl directory

theorem grows_makeDirectories (directory : Directory) (path : String) :
    Grows directory (directory.makeDirectories path).2 := by
  unfold makeDirectories
  split
  · exact .refl directory
  · split
    · exact .refl directory
    · exact grows_makeAll directory _ _

/-! ### Files -/

/-- A file can be written under the path: it leads to a place in a directory where a file is,
or nothing. What is written to a device (`/dev/stdout`, `/dev/null`) is in no file, so the
paths of devices are left out. -/
def TakesFile (directory : Directory) (path : String) : Prop :=
  ∃ place, directory.destination path = .ok place ∧
    ∀ device, directory.nodeAt place ≠ some (.device device)

theorem takesFile_of_absent {path : String} (place : Place)
    (writable : directory.destination path = .ok place)
    (absent : directory.nodeAt place = none) : directory.TakesFile path := by
  refine ⟨place, writable, fun device => ?_⟩
  rw [absent]
  nofun

/-- A file can be delivered under the path: it can be written once the directories above it are
made. -/
def IsWritable (directory : Directory) (path : String) : Prop :=
  match Path.parent? path with
  | some parent => (directory.makeDirectories parent).1 = .ok () ∧
      (directory.makeDirectories parent).2.TakesFile path
  | none => directory.TakesFile path

/-- A file that was put under a path is found under it. -/
theorem find_put {path : String} (writable : directory.destination path = .ok place)
    (content : ByteArray) :
    (directory.put place (.file content)).find path = .ok (.file content) := by
  have vacant := vacant_of_destination writable
  refine find_of_locate (locate_of_keeps (keeps_put _ vacant) (locate_of_destination writable)) ?_
  rw [nodeAt_put vacant, if_pos rfl]

/-- Of two files that are written under names in the working directory, the first is still
there after the second. -/
theorem find_put_put {name other : Path.Name} (differ : name ≠ other) {second : Place}
    {content : ByteArray}
    (writable : directory.destination (Path.join directory.work.path name.text) = .ok place)
    (later : (directory.put place (.file content)).destination
      (Path.join directory.work.path other.text) = .ok second) (otherContent : ByteArray) :
    ((directory.put place (.file content)).put second (.file otherContent)).find name.text =
      .ok (.file content) := by
  have vacant := vacant_of_destination writable
  have laterVacant := vacant_of_destination later
  have apart : place ≠ second := by
    rw [← work_put directory place (.file content)] at later
    rw [place_of_destination_join writable, place_of_destination_join later, work_put]
    exact fun same => differ (Place.step_named_inj same)
  have here := locate_join name.isName.1 (locate_of_destination writable)
  refine find_of_locate (locate_of_keeps (keeps_put _ laterVacant)
    (locate_of_keeps (keeps_put _ vacant) here)) ?_
  rw [nodeAt_put laterVacant, if_neg apart, nodeAt_put vacant, if_pos rfl]

/-- Where a file can be written, one still can be after another was. -/
theorem TakesFile.put {path : String} (takes : directory.TakesFile path)
    (vacant : directory.nodeAt place ≠ some .directory) (content : ByteArray) :
    (directory.put place (.file content)).TakesFile path := by
  obtain ⟨here, writable, noDevice⟩ := takes
  have written : (directory.put place (.file content)).nodeAt here = some (.file content) ∨
      (directory.put place (.file content)).nodeAt here = directory.nodeAt here := by
    rw [nodeAt_put vacant]
    split
    · exact .inl rfl
    · exact .inr rfl
  refine ⟨here, destination_of_keeps (keeps_put _ vacant) writable ?_, fun device => ?_⟩
  · rcases written with file | same
    · rw [file]
      nofun
    · rw [same]
      exact vacant_of_destination writable
  · rcases written with file | same
    · rw [file]
      nofun
    · rw [same]
      exact noDevice device

/-- A file is under the path, and every other place is as it was, but that directories may have
been made where there was nothing. -/
def Stored (before after : Directory) (path : String) (content : ByteArray) : Prop :=
  ∃ place, after.locate path = .ok place ∧ after.nodeAt place = some (.file content) ∧
    ∀ other, other ≠ place →
      after.nodeAt other = before.nodeAt other ∨
        (before.nodeAt other = none ∧ after.nodeAt other = some .directory)

theorem stored_put {middle : Directory} (grows : Grows before middle) {path : String}
    (writable : middle.destination path = .ok place) (content : ByteArray) :
    Stored before (middle.put place (.file content)) path content := by
  have vacant := vacant_of_destination writable
  refine ⟨place, locate_of_keeps (keeps_put _ vacant) (locate_of_destination writable), ?_, ?_⟩
  · rw [nodeAt_put vacant, if_pos rfl]
  · intro other ne
    rw [nodeAt_put vacant, if_neg ne]
    exact grows.nodes other

theorem isThere_eq_false {path : String} (place : Place) (vetted : vet path = .ok ())
    (noSlash : Path.endsWithSlash path = false)
    (walks : directory.walk (directory.begin path) (Path.parts path) = .ok place)
    (absent : directory.nodeAt place = none) : directory.isThere path = false := by
  simp only [isThere, locate_eq_walk vetted noSlash, walks, absent, Option.isSome_none]

theorem isThere_of_find {path : String} (found : directory.find path = .ok node) :
    directory.isThere path = true := by
  obtain ⟨place, located, there⟩ := ok_of_bind found
  simp only [isThere, located]
  split at there
  · next atPlace => rw [atPlace]; rfl
  · cases there

end Directory

end LiveScope
