import NotebookKernel.Machine.Run
import NotebookKernel.Tooling.Command

/-!
# Where cells are written

A cell is written below the source directory of its session, in the file for its module. The name
of the module is text of the user's, if the naming looks for a declaration, and it is not checked:
a name that is absolute or goes up leads anywhere. A cell stays strictly inside of the directory if
the name of its file does neither. Names made of a stem and a number do neither.
-/

namespace NotebookKernel

namespace Disk

/-- Where a name leads to from a place. -/
def turn (here : Path) (name : String) : Path :=
  if name = "" ∨ name = "." then here else if name = ".." then here.dropLast else here ++ [name]

/-- Where names lead to, one after the other. -/
def lead (here : Path) (names : List String) : Path := names.foldl turn here

/-- The place that the text of a path stands for, its points and double points resolved. -/
def place (text : String) : Path := lead [] (names text)

/-- Strictly inside of a directory. -/
def Inside (dir p : Path) : Prop := dir <+: p ∧ p ≠ dir

instance (dir p : Path) : Decidable (Inside dir p) := by
  unfold Inside
  infer_instance

variable {d d' : Disk} {here p q : Path} {text : String}

/-! ## Following names -/

theorem follow_cons {name : String} {rest : List String}
    (followed : d.follow here (name :: rest) = .ok p) :
    d.get? here = some .directory ∧ d.follow (turn here name) rest = .ok p := by
  rw [follow] at followed
  cases found : d.get? here with
  | none =>
    rw [found] at followed
    cases followed
  | some e =>
    rw [found] at followed
    cases e with
    | file content => cases followed
    | directory =>
      refine ⟨rfl, ?_⟩
      simp only at followed
      unfold turn
      split at followed
      · rwa [if_pos ‹_›]
      · rw [if_neg ‹_›]
        split at followed
        · rwa [if_pos ‹_›]
        · rw [if_neg ‹_›]
          split at followed
          · cases followed
          · exact followed

theorem follow_lead {names : List String} (followed : d.follow here names = .ok p) :
    p = lead here names := by
  induction names generalizing here with
  | nil => exact (Except.ok.inj followed).symm
  | cons name rest ih => exact ih (follow_cons followed).2

/-- Every place that is passed on the way is a directory. -/
theorem follow_passes {before rest : List String} {name : String}
    (followed : d.follow here (before ++ name :: rest) = .ok p) :
    d.get? (lead here before) = some .directory := by
  induction before generalizing here with
  | nil => exact (follow_cons followed).1
  | cons first before ih => exact ih (follow_cons followed).2

/-- Names that do not go up lead below. -/
theorem lead_below {names : List String} (onwards : ".." ∉ names) : here <+: lead here names := by
  induction names generalizing here with
  | nil => exact List.prefix_rfl
  | cons name rest ih =>
    rw [List.mem_cons, not_or] at onwards
    refine List.IsPrefix.trans ?_ (ih onwards.2)
    unfold turn
    rw [if_neg (Ne.symm onwards.1)]
    split
    · exact List.prefix_rfl
    · exact List.prefix_append _ _

theorem resolve_root (followed : d.resolve [] text = .ok p) : d.follow [] (names text) = .ok p := by
  unfold resolve at followed
  split at followed
  · cases followed
  · split at followed
    · cases followed
    · split at followed
      · cases followed
      · exact followed
      · exact followed

theorem names_ne_nil (text : String) : names text ≠ [] := by
  simp [names, splitAtChar_ne_nil]

theorem names_join (base file : String) :
    names (base ++ "/" ++ file) = names base ++ names file := by
  have chars : (base ++ "/" ++ file).toList = base.toList ++ '/' :: file.toList := by simp
  rw [names, chars, splitAtChar_append, List.map_append]
  rfl

theorem names_free (free : '/' ∉ text.toList) : names text = [text] := by
  rw [names, splitAtChar_free free, List.map_singleton, String.ofList_toList]

/-! ## Writing -/

/-- A file is written where its path leads to, which is no directory. -/
theorem write_ok {content : Bytes} (written : d.write [] text content = .ok (p, d')) :
    d.follow [] (names text) = .ok p ∧ d.isDirectory p = false ∧
      d' = d.put p (.file content) := by
  unfold write at written
  split at written
  · cases written
  · rename_i target resolved
    split at written
    · cases written
    · rename_i free
      obtain ⟨rfl, rfl⟩ := Prod.mk.inj (Except.ok.inj written)
      exact ⟨resolve_root resolved, by simpa using free, rfl⟩

/-- A relative path that does not go up ends strictly inside of the directory it starts from. -/
theorem write_inside {content : Bytes} {dir file : String}
    (written : d.write [] (dir ++ "/" ++ file) content = .ok (p, d'))
    (onwards : ".." ∉ names file) : Inside (place dir) p := by
  obtain ⟨followed, noDirectory, -⟩ := write_ok written
  rw [names_join] at followed
  have below : place dir <+: p := by
    have led := follow_lead followed
    rw [lead, List.foldl_append] at led
    exact led ▸ lead_below onwards
  refine ⟨below, ?_⟩
  rintro rfl
  -- the directory itself is passed on the way, and what is written to is no directory
  obtain ⟨first, rest, all⟩ := List.exists_cons_of_ne_nil (names_ne_nil file)
  rw [all] at followed
  have directory : d.get? (place dir) = some .directory := follow_passes followed
  simp [isDirectory, directory] at noDirectory

theorem get?_put_other {e : Entry} (other : q ≠ p) : (d.put p e).get? q = d.get? q := by
  unfold get? put
  by_cases root : q = []
  · rw [if_pos root, if_pos root]
  · have kept : (d.entries.filter fun old => old.1 != p).find? (fun old => old.1 == q) =
        d.entries.find? (fun old => old.1 == q) := by
      rw [List.find?_filter]
      congr 1
      funext old
      by_cases same : old.1 = q
      · simp [same, other]
      · simp [same]
    have later : ((p, e).1 == q) = false := by simpa using Ne.symm other
    rw [if_neg root, if_neg root, List.find?_cons, later, kept]

end Disk

namespace Workshop

/-! ## Names of files -/

/-- The name of a file is relative and does not go up. -/
def Onwards (file : String) : Prop := file.startsWith "/" = false ∧ ".." ∉ Disk.names file

/-- The file for a module has the name of the module, with points and the extension behind it. -/
theorem fileName_chars (extension module : String) :
    ∃ more, (fileName extension module).toList = module.toList ++ more ∧
      ∀ c ∈ more, c = '.' ∨ c ∈ extension.toList := by
  unfold fileName
  cases kept : extension.toList.dropWhile (· == '.') with
  | nil => exact ⟨[], (List.append_nil _).symm, by simp⟩
  | cons first rest =>
    refine ⟨'.' :: first :: rest, by simp, ?_⟩
    intro c member
    obtain rfl | inside := List.mem_cons.mp member
    · exact .inl rfl
    · rw [← kept] at inside
      exact .inr ((List.dropWhile_suffix _).subset inside)

/-- A name without separators that has more than points in it. -/
theorem onwards_of_free {file : String} {c : Char} (free : '/' ∉ file.toList)
    (member : c ∈ file.toList) (other : c ≠ '.') : Onwards file := by
  constructor
  · rw [← Bool.not_eq_true, String.startsWith_string_iff]
    intro absolute
    exact free (absolute.subset (by decide))
  · rw [Disk.names_free free, List.mem_singleton]
    rintro rfl
    revert member
    simp [other]

end Workshop

namespace ModuleNaming

/-- The text for a number has no separator, and more than points. -/
theorem number_plain (sequence : Int) :
    let text := if sequence < 0 then "Setup" else toString sequence
    '/' ∉ text.toList ∧ ∃ c ∈ text.toList, c ≠ '.' := by
  intro text
  by_cases low : sequence < 0
  · have setup : text = "Setup" := if_pos low
    rw [setup]
    exact ⟨by decide, 'S', by decide, by decide⟩
  · obtain ⟨n, rfl⟩ := Int.eq_ofNat_of_zero_le (by omega : 0 ≤ sequence)
    have number : text = toString n := if_neg low
    rw [number]
    constructor
    · exact fun here => absurd (isDigit_of_mem_number here) (by decide)
    · have digits : (toString n).toList ≠ [] := by
        rw [Nat.toString_eq_repr, Nat.toList_repr]
        exact Nat.toDigits_ne_nil
      obtain ⟨c, member⟩ := List.exists_mem_of_ne_nil _ digits
      refine ⟨c, member, ?_⟩
      rintro rfl
      exact absurd (isDigit_of_mem_number member) (by decide)

/-- The file for a cell stays below its directory. If names are made of a stem and a number, it is
enough that the stem has no separator; a name that is declared has to be looked at. -/
def Confines (extension source : String) : ModuleNaming → Prop
  | .sequential stem => '/' ∉ stem.toList
  | .declared _ expression =>
      ∀ name, expression.capture? 1 source.toList = some name →
        Workshop.Onwards (Workshop.fileName extension (String.ofList name))

theorem Confines.onwards {naming : ModuleNaming} {extension source module : String}
    {sequence : Int} (confines : naming.Confines extension source)
    (free : '/' ∉ extension.toList) (named : naming.moduleOf sequence source = some module) :
    Workshop.Onwards (Workshop.fileName extension module) := by
  cases naming with
  | sequential stem =>
    obtain rfl : stem ++ (if sequence < 0 then "Setup" else toString sequence) = module :=
      Option.some.inj named
    obtain ⟨plain, c, member, other⟩ := number_plain sequence
    obtain ⟨more, chars, added⟩ := Workshop.fileName_chars extension (stem ++ _)
    rw [String.toList_append] at chars
    apply Workshop.onwards_of_free (c := c)
    · rw [chars, List.mem_append, List.mem_append, not_or, not_or]
      refine ⟨⟨confines, plain⟩, ?_⟩
      intro here
      obtain point | inside := added _ here
      · exact absurd point (by decide)
      · exact free inside
    · rw [chars]
      exact List.mem_append_left _ (List.mem_append_right _ member)
    · exact other
  | declared pattern expression =>
    obtain ⟨name, captured, rfl⟩ := Option.map_eq_some_iff.mp named
    exact confines name captured

end ModuleNaming

namespace Workshop

/-! ## Writing cells -/

/-- The workshop after a cell has been written, if it can be. -/
def deposit (w : Workshop) (s : CommandSession) (cell : Cell) : Workshop :=
  match w.writeCell s cell with
  | .ok (_, _, written) => written
  | .error _ => w

/-- A command may have been run. -/
def Ran (w w' : Workshop) : Prop := w' = w ∨ ∃ argv directory, w' = (w.command argv directory).2

/-- The command line of a call and the directory that it is run in. There is none if the profile
has no such command, if the cell cannot be written, or if nothing is asked about. -/
def commandOf? (w : Workshop) (s : CommandSession) :
    ToolingCall → Option (List String × String)
  | .compile _ cell =>
      match w.writeCell s cell with
      | .error _ => none
      | .ok (m, path, _) =>
          if w.profile.compile = [] then none
          else some (w.expand s [("file", path), ("module", m)] w.profile.compile, s.project)
  | .run _ a =>
      let path := a.path.getD (cellPath w.profile s.project a.module)
      some (w.expand s [("file", path), ("module", a.module)] w.profile.run, w.workingDir)
  | .complete _ cell span =>
      match w.profile.complete with
      | none => none
      | some template =>
          if cell.module = none ∨ (w.writeCell s cell).isOk then
            some (w.expand s (queryValues cell span) template, w.workingDir)
          else none
  | .inspect _ cell span =>
      match w.profile.inspect with
      | none => none
      | some template =>
          if span.token cell.source.toList = [] then none
          else some (w.expand s (queryValues cell span) template, w.workingDir)
  | _ => none

/-- The workshop after a command line has been run in a directory, if there is one. -/
def afterCommand (w : Workshop) : Option (List String × String) → Workshop
  | none => w
  | some (argv, directory) => (w.command argv directory).2

theorem afterCommand_ran (w : Workshop) (line : Option (List String × String)) :
    Ran w (w.afterCommand line) := by
  obtain _ | ⟨argv, directory⟩ := line
  · exact .inl rfl
  · exact .inr ⟨argv, directory, rfl⟩

/-- Writing a cell changes nothing but the disk. -/
theorem writeCell_disk {w w' : Workshop} {s : CommandSession} {cell : Cell} {module path : String}
    (wrote : w.writeCell s cell = .ok (module, path, w')) :
    w' = { w with disk := w'.disk } := by
  unfold writeCell at wrote
  split at wrote
  · cases wrote
  · simp only at wrote
    split at wrote
    · cases wrote
      rfl
    · cases wrote

theorem compile_launches (w : Workshop) (s : CommandSession) (id : SessionId) (cell : Cell) :
    (w.compile s cell).2 = (w.deposit s cell).afterCommand (w.commandOf? s (.compile id cell)) := by
  cases wrote : w.writeCell s cell with
  | error e => simp only [compile, deposit, commandOf?, wrote, afterCommand]
  | ok result =>
    obtain ⟨m, path, written⟩ := result
    simp only [compile, deposit, commandOf?, wrote]
    rw [writeCell_disk wrote]
    by_cases quiet : w.profile.compile = []
    · simp only [if_pos quiet, afterCommand]
    · simp only [if_neg quiet, afterCommand]
      rfl

theorem complete_launches (w : Workshop) (s : CommandSession) (id : SessionId) (cell : Cell)
    (span : TokenSpan) (asks : w.profile.complete ≠ none) :
    (w.complete s cell span).2 =
      (w.deposit s cell).afterCommand (w.commandOf? s (.complete id cell span)) := by
  obtain ⟨template, asked⟩ := Option.ne_none_iff_exists'.mp asks
  by_cases unnamed : cell.module = none
  · have nothing : w.writeCell s cell = .error (.missingModule cell.sequence) := by
      simp only [writeCell, unnamed]
    simp only [complete, deposit, commandOf?, asked, nothing, unnamed, true_or, if_true,
      afterCommand]
  · cases wrote : w.writeCell s cell with
    | error e =>
      simp [complete, deposit, commandOf?, asked, wrote, unnamed, afterCommand, Except.map,
        Except.isOk, Except.toBool]
    | ok result =>
      obtain ⟨m, path, written⟩ := result
      simp only [complete, deposit, commandOf?, asked, wrote, if_neg unnamed, Except.map,
        Except.isOk, Except.toBool, or_true, if_true, afterCommand]
      rw [writeCell_disk wrote]
      rfl

/-- A call writes the cell as far as it can be written, and runs no more than one command. -/
theorem compile_deposits (w : Workshop) (s : CommandSession) (cell : Cell) :
    Ran (w.deposit s cell) (w.compile s cell).2 := by
  rw [w.compile_launches s s.id cell]
  exact afterCommand_ran _ _

theorem complete_deposits (w : Workshop) (s : CommandSession) (cell : Cell) (span : TokenSpan) :
    (w.complete s cell span).2 = w ∨ Ran (w.deposit s cell) (w.complete s cell span).2 := by
  by_cases silent : w.profile.complete = none
  · unfold complete
    rw [silent]
    exact .inl rfl
  · rw [w.complete_launches s s.id cell span silent]
    exact .inr (afterCommand_ran _ _)

theorem deposit_cases (w : Workshop) (s : CommandSession) (cell : Cell) :
    w.deposit s cell = w ∨
      ∃ m p disk, cell.module = some m ∧
        w.disk.write [] (cellPath w.profile s.project m) (utf8 cell.source) = .ok (p, disk) ∧
        w.deposit s cell = { w with disk := disk } := by
  unfold deposit writeCell
  cases named : cell.module with
  | none => exact .inl rfl
  | some m =>
    simp only
    cases result : w.disk.write [] (cellPath w.profile s.project m) (utf8 cell.source) with
    | error f => exact .inl rfl
    | ok there => exact .inr ⟨m, there.1, there.2, rfl, result, rfl⟩

/-- A call of the compiler and a question for completions write the cell where the text of its path
leads to, if anywhere. The place is strictly inside of the session's source directory, if the file
for the cell stays below it, and nothing else on the disk is touched before the command runs. -/
theorem cells_confined (w : Workshop) (s : CommandSession) (naming : ModuleNaming) (sequence : Int)
    (source : String) (extension : '/' ∉ w.profile.language.fileExtension.toList)
    (confines : naming.Confines w.profile.language.fileExtension source) :
    let cell := Cell.make naming sequence source
    let directory := Disk.place (sourceDir s.project)
    let written := w.deposit s cell
    (written = w ∨ ∃ m, cell.module = some m ∧
      let p := Disk.place (cellPath w.profile s.project m)
      Disk.Inside directory p ∧
        written = { w with disk := w.disk.put p (.file (utf8 source)) }) ∧
    (∀ p, ¬Disk.Inside directory p → written.disk.get? p = w.disk.get? p) ∧
    Ran written (w.compile s cell).2 ∧
    ∀ span, (w.complete s cell span).2 = w ∨ Ran written (w.complete s cell span).2 := by
  intro cell directory written
  have placed : written = w ∨ ∃ m, cell.module = some m ∧
      let p := Disk.place (cellPath w.profile s.project m)
      Disk.Inside directory p ∧
        written = { w with disk := w.disk.put p (.file (utf8 source)) } := by
    obtain unchanged | ⟨m, p, disk, named, wrote, changed⟩ := w.deposit_cases s cell
    · exact .inl unchanged
    · obtain ⟨relative, onwards⟩ := confines.onwards extension named
      have path : cellPath w.profile s.project m =
          sourceDir s.project ++ "/" ++ fileName w.profile.language.fileExtension m := by
        simp [cellPath, join, relative]
      obtain ⟨followed, -, rfl⟩ := Disk.write_ok wrote
      have led : p = Disk.place (cellPath w.profile s.project m) := Disk.follow_lead followed
      rw [path] at wrote
      have inside := Disk.write_inside wrote onwards
      rw [led] at inside changed
      exact .inr ⟨m, named, inside, changed⟩
  refine ⟨placed, ?_, w.compile_deposits s cell, w.complete_deposits s cell⟩
  intro q outside
  obtain unchanged | ⟨m, -, inside, changed⟩ := placed
  · rw [unchanged]
  · rw [changed]
    apply Disk.get?_put_other
    intro same
    exact outside (same ▸ inside)

/-- Cells begin with a header that names their module. -/
def headerPattern : String := "^module ([^\\s]+) where"

def headerExpression : Regex := (Regex.parse? headerPattern.toList).getD .empty

def headerNaming : ModuleNaming := .declared headerPattern headerExpression

theorem headerNaming_parsed : ModuleNaming.ofPattern? headerPattern = some headerNaming := by
  have parses : (Regex.parse? headerPattern.toList).isSome = true := by decide +kernel
  obtain ⟨expression, parsed⟩ := Option.isSome_iff_exists.mp parses
  simp [ModuleNaming.ofPattern?, headerNaming, headerExpression, parsed]

theorem header_main :
    headerExpression.capture? 1 "module Main where".toList = some "Main".toList := by
  change headerExpression.capture? 1 (String.ofList _).toList = some (String.ofList _).toList
  rw [String.toList_ofList, String.toList_ofList]
  decide +kernel

theorem header_up :
    headerExpression.capture? 1 "module ../../notes where".toList = some "../../notes".toList := by
  change headerExpression.capture? 1 (String.ofList _).toList = some (String.ofList _).toList
  rw [String.toList_ofList, String.toList_ofList]
  decide +kernel

theorem header_cell {source name : String}
    (captured : headerExpression.capture? 1 source.toList = some name.toList) :
    Cell.make headerNaming 0 source = ⟨0, source, some name⟩ := by
  simp [Cell.make, headerNaming, ModuleNaming.moduleOf, captured]

def headerSession : CommandSession := ⟨1, "/tmp/nbk-1", none, none⟩

/-- A session of a profile without a compiler, on a disk with a file next to its project. -/
def headerWorkshop : Workshop where
  launch := Disk.launch
  profile := { ToolingProfile.shell with modulePattern := some headerPattern, compile := [] }
  workingDir := "/work"
  disk := Disk.empty.makeDirectory ["tmp", "nbk-1", "src"]
    |>.put ["tmp", "notes.sh"] (.file (utf8 "keep"))
  sessions := [headerSession]
  started := 1

/-- A cell that declares a plain name is written below the project and leaves the other file. -/
theorem cells_confined_header :
    let source := "module Main where"
    let cell := Cell.make headerNaming 0 source
    let written := headerWorkshop.deposit headerSession cell
    headerNaming.Confines ".sh" source ∧
      written.disk.get? ["tmp", "nbk-1", "src", "Main.sh"] = some (.file (utf8 source)) ∧
      written.disk.get? ["tmp", "notes.sh"] = some (.file (utf8 "keep")) := by
  intro source cell written
  have confines : headerNaming.Confines ".sh" source := by
    intro name captured
    obtain rfl : "Main".toList = name := Option.some.inj (header_main.symm.trans captured)
    rw [String.ofList_toList]
    exact onwards_of_free (c := 'M') (by decide) (by decide) (by decide)
  obtain ⟨-, elsewhere, -⟩ := cells_confined headerWorkshop headerSession headerNaming 0 source
    (by decide) confines
  refine ⟨confines, ?_, ?_⟩
  · have named : cell = ⟨0, source, some "Main"⟩ := header_cell header_main
    simp only [written, named]
    decide +kernel
  · rw [elsewhere]
    · decide +kernel
    · decide +kernel

/-- A header that goes up overwrites a file outside of the project. -/
theorem header_escapes :
    let cell := Cell.make headerNaming 0 "module ../../notes where"
    let place : Path := ["tmp", "notes.sh"]
    ModuleNaming.ofPattern? headerPattern = some headerNaming ∧
      headerWorkshop.find? 1 = some headerSession ∧
      '/' ∉ headerWorkshop.profile.language.fileExtension.toList ∧
      ¬Disk.Inside (Disk.place (sourceDir headerSession.project)) place ∧
      headerWorkshop.disk.get? place = some (.file (utf8 "keep")) ∧
      (headerWorkshop.compile headerSession cell).2.disk.get? place =
        some (.file (utf8 cell.source)) := by
  intro cell place
  have named : cell = ⟨0, "module ../../notes where", some "../../notes"⟩ := header_cell header_up
  refine ⟨headerNaming_parsed, ?_, ?_, ?_, ?_, ?_⟩
  · decide +kernel
  · decide
  · decide +kernel
  · decide +kernel
  · rw [named]
    decide +kernel

end Workshop

end NotebookKernel
