import NotebookKernel.Proofs.CellLog
import NotebookKernel.Proofs.Confinement

/-!
# Files of cells

Where names are made of a stem and a number, each cell has a file of its own: right in the source
directory, with a name that no other number leads to. A call of the compiler and a question for
completions write the file of their cell and no other one, before their command runs.
-/

namespace NotebookKernel

namespace ToolingCall

/-- The cell that a call may write. -/
def cell? : ToolingCall → Option Cell
  | compile _ cell => some cell
  | complete _ cell _ => some cell
  | _ => none

/-- The call is about the cells of a session. -/
def Concerns (id : SessionId) : ToolingCall → Prop
  | compile i _ => i = id
  | run i _ => i = id
  | complete i _ _ => i = id
  | inspect i _ _ => i = id
  | _ => False

end ToolingCall

namespace Disk

variable {d d' : Disk} {dir p q : Path} {text file : String} {content : Bytes}

/-! ## Directories without directories inside -/

/-- There is no directory inside. -/
def Flat (d : Disk) (dir : Path) : Prop := ∀ p, Inside dir p → d.isDirectory p = false

theorem Inside.ne_root (inside : Inside dir p) : p ≠ [] := by
  rintro rfl
  exact inside.2 (List.prefix_nil.mp inside.1).symm

theorem inside_append (dir : Path) (name : String) : Inside dir (dir ++ [name]) :=
  ⟨List.prefix_append _ _, by simp⟩

theorem get?_put_same {e : Entry} (below : p ≠ []) : (d.put p e).get? p = some e := by
  simp [get?, put, below]

theorem Flat.put (flat : d.Flat dir) (p : Path) (content : Bytes) :
    (d.put p (.file content)).Flat dir := by
  intro q inside
  by_cases same : q = p
  · subst same
    rw [isDirectory, get?_put_same inside.ne_root]
    rfl
  · rw [isDirectory, get?_put_other same]
    exact flat q inside

theorem flat_of_entries (outside : ∀ e ∈ d.entries, ¬Inside dir e.1) : d.Flat dir := by
  intro p inside
  have absent : d.entries.find? (fun e => e.1 == p) = none := by
    refine List.find?_eq_none.mpr fun e member same => ?_
    obtain rfl : e.1 = p := by simpa using same
    exact outside e member inside
  rw [isDirectory, get?, if_neg inside.ne_root, absent]
  rfl

/-- What is there after a directory was made was there before, or is above the directory. -/
theorem mem_makeDirectory {e : Path × Entry} (member : e ∈ (d.makeDirectory p).entries) :
    e ∈ d.entries ∨ e.1 <+: p := by
  unfold makeDirectory at member
  generalize List.range p.length = steps at member
  induction steps generalizing d with
  | nil => exact .inl member
  | cons n rest ih =>
    obtain before | above := ih member
    · dsimp only at before
      split at before
      · exact .inl before
      · obtain rfl | old := List.mem_cons.mp before
        · exact .inr (List.take_prefix _ _)
        · exact .inl (List.mem_filter.mp old).1
    · exact .inr above

/-- A name that is neither empty nor made of points. -/
def Plain (name : String) : Prop := name ≠ "" ∧ name ≠ "." ∧ name ≠ ".."

theorem turn_plain {name : String} (plain : Plain name) (here : Path) :
    turn here name = here ++ [name] := by
  unfold turn
  rw [if_neg (not_or.mpr ⟨plain.1, plain.2.1⟩), if_neg plain.2.2]

theorem lead_append (here : Path) (before after : List String) :
    lead here (before ++ after) = lead (lead here before) after := List.foldl_append

/-- In a directory without directories inside, only names without separators lead to a file. -/
theorem Flat.write {name : String} {rest : List String} (flat : d.Flat (place text))
    (first : names file = name :: rest) (plain : Plain name)
    (written : d.write [] (text ++ "/" ++ file) content = .ok (p, d')) :
    rest = [] ∧ p = place text ++ [name] ∧ d' = d.put p (.file content) := by
  obtain ⟨followed, -, changed⟩ := write_ok written
  rw [names_join, first] at followed
  have entered : lead [] (names text ++ [name]) = place text ++ [name] := by
    rw [lead_append]
    exact turn_plain plain _
  cases rest with
  | nil => exact ⟨rfl, (follow_lead followed).trans entered, changed⟩
  | cons second more =>
    -- the first name would have to be the name of a directory
    rw [← List.singleton_append, ← List.append_assoc] at followed
    have directory := follow_passes followed
    rw [entered] at directory
    have none := flat _ (inside_append (place text) name)
    simp [isDirectory, directory] at none

end Disk

namespace Workshop

open Disk

/-! ## Names of files -/

/-- The first name of a file begins with the module. The extension may have separators. -/
theorem names_fileName (extension : String) {module : String} {c : Char}
    (free : '/' ∉ module.toList) (member : c ∈ module.toList) (other : c ≠ '.') :
    ∃ name rest, names (fileName extension module) = name :: rest ∧ Plain name ∧
      (rest = [] → name = fileName extension module) := by
  obtain ⟨more, chars, -⟩ := fileName_chars extension module
  have plain {name : String} {tail : List Char} (same : name.toList = module.toList ++ tail) :
      Plain name := by
    have there : c ∈ name.toList := same ▸ List.mem_append_left _ member
    refine ⟨?_, ?_, ?_⟩
    all_goals
      rintro rfl
      simp [other] at there
  by_cases separated : '/' ∈ more
  · obtain ⟨before, after, rfl, first⟩ := List.eq_append_cons_of_mem separated
    refine ⟨String.ofList (module.toList ++ before), names (String.ofList after), ?_, ?_, ?_⟩
    · have whole : module.toList ++ (before ++ '/' :: after) =
          (module.toList ++ before) ++ '/' :: after := (List.append_assoc _ _ _).symm
      have alone : '/' ∉ module.toList ++ before := by
        rw [List.mem_append]
        exact not_or.mpr ⟨free, first⟩
      rw [names, chars, whole, splitAtChar_append, splitAtChar_free alone, names]
      simp
    · exact plain (String.toList_ofList)
    · exact fun none => absurd none (names_ne_nil _)
  · have alone : '/' ∉ (fileName extension module).toList := by
      rw [chars, List.mem_append]
      exact not_or.mpr ⟨free, separated⟩
    exact ⟨_, [], names_free alone, plain chars, fun _ => rfl⟩

theorem fileName_injective {extension module module' : String}
    (same : fileName extension module = fileName extension module') : module = module' := by
  unfold fileName at same
  split at same
  · exact same
  · rw [String.append_assoc, String.append_assoc] at same
    exact (String.append_left_inj _).mp same

/-- The directory of a session's cells. -/
def sources (s : CommandSession) : Path := place (sourceDir s.project)

/-- A cell that is named after its number. -/
def Numbered (stem : String) (cell : Cell) : Prop :=
  -1 ≤ cell.sequence ∧ cell = .make (.sequential stem) cell.sequence cell.source

variable {w w' : Workshop} {s : CommandSession} {stem path module : String} {cell : Cell}

theorem Numbered.named (numbered : Numbered stem cell) :
    cell.module = (ModuleNaming.sequential stem).moduleOf cell.sequence cell.source :=
  congrArg Cell.module numbered.2

theorem Numbered.plain (numbered : Numbered stem cell) (separate : '/' ∉ stem.toList)
    (named : cell.module = some module) :
    '/' ∉ module.toList ∧ ∃ c ∈ module.toList, c ≠ '.' := by
  obtain rfl : stem ++ (if cell.sequence < 0 then "Setup" else toString cell.sequence) = module :=
    Option.some.inj (numbered.named.symm.trans named)
  obtain ⟨free, c, member, other⟩ := ModuleNaming.number_plain cell.sequence
  rw [String.toList_append, List.mem_append]
  exact ⟨not_or.mpr ⟨separate, free⟩, c, List.mem_append_right _ member, other⟩

theorem cellPath_eq (profile : ToolingProfile) (project : String) {c : Char}
    (free : '/' ∉ module.toList) (member : c ∈ module.toList) :
    cellPath profile project module =
      sourceDir project ++ "/" ++ fileName profile.language.fileExtension module := by
  obtain ⟨more, chars, -⟩ := fileName_chars profile.language.fileExtension module
  have relative : (fileName profile.language.fileExtension module).startsWith "/" = false := by
    rw [← Bool.not_eq_true, String.startsWith_string_iff, chars]
    intro absolute
    cases letters : module.toList with
    | nil => simp [letters] at member
    | cons first rest =>
      rw [letters] at absolute free
      obtain rfl : '/' = first := (List.cons_prefix_cons.mp absolute).1
      exact free List.mem_cons_self
  rw [cellPath, join, relative]
  rfl

/-- What is written for a numbered cell: its source, to a file right in the source directory. -/
theorem writeCell_numbered (numbered : Numbered stem cell) (separate : '/' ∉ stem.toList)
    (flat : w.disk.Flat (sources s)) (wrote : w.writeCell s cell = .ok (module, path, w')) :
    cell.module = some module ∧ path = cellPath w.profile s.project module ∧
      place path = sources s ++ [fileName w.profile.language.fileExtension module] ∧
      w' = { w with disk := w.disk.put (place path) (.file (utf8 cell.source)) } := by
  unfold writeCell at wrote
  cases named : cell.module with
  | none =>
    rw [named] at wrote
    cases wrote
  | some m =>
    simp only [named] at wrote
    cases result : w.disk.write [] (cellPath w.profile s.project m) (utf8 cell.source) with
    | error f =>
      rw [result] at wrote
      cases wrote
    | ok there =>
      rw [result] at wrote
      cases wrote
      obtain ⟨p, disk⟩ := there
      obtain ⟨free, c, member, other⟩ := numbered.plain separate named
      have same := cellPath_eq w.profile s.project free member
      have led : p = place (cellPath w.profile s.project module) := by
        obtain ⟨followed, -, -⟩ := write_ok result
        exact follow_lead followed
      obtain ⟨name, rest, first, plain, whole⟩ :=
        names_fileName w.profile.language.fileExtension free member other
      rw [same] at result
      obtain ⟨rfl, there, rfl⟩ := Flat.write flat first plain result
      rw [whole rfl] at there
      exact ⟨rfl, rfl, led.symm.trans there, by rw [← led]⟩

/-- Two numbered cells with one file have one number. -/
theorem Numbered.sequence_eq {cell' : Cell} {module' : String} (numbered : Numbered stem cell)
    (numbered' : Numbered stem cell') (named : cell.module = some module)
    (named' : cell'.module = some module') {extension : String}
    (same : sources s ++ [fileName extension module] = sources s ++ [fileName extension module']) :
    cell.sequence = cell'.sequence := by
  have files : fileName extension module = fileName extension module' := by simpa using same
  obtain rfl := fileName_injective files
  have names : (ModuleNaming.sequential stem).moduleOf cell.sequence cell.source =
      (ModuleNaming.sequential stem).moduleOf cell'.sequence cell'.source :=
    numbered.named.symm.trans ((named.trans named'.symm).trans numbered'.named)
  exact ModuleNaming.sequential_injective numbered.1 numbered'.1 names

/-! ## Calls of a session -/

/-- The workshop when the command of a call runs: the cell has been written, as far as it can
be. -/
def atCommand (w : Workshop) (s : CommandSession) : ToolingCall → Workshop
  | .compile _ cell => w.deposit s cell
  | .complete _ cell _ => if w.profile.complete = none then w else w.deposit s cell
  | _ => w

/-- The program that a call launches leaves the source directory of a session as it finds it. This
is about the launcher alone: what a call writes itself is there when the program is launched. -/
def Spares (w : Workshop) (s : CommandSession) (c : ToolingCall) : Prop :=
  ∀ program args directory, w.commandOf? s c = some (program :: args, directory) →
    ∀ e left, w.launch (w.atCommand s c).disk directory program args = .ok (e, left) →
      ∀ p, Inside (sources s) p → left.get? p = (w.atCommand s c).disk.get? p

theorem atCommand_cases (w : Workshop) (s : CommandSession) (c : ToolingCall) :
    w.atCommand s c = w ∨
      ∃ cell, c.cell? = some cell ∧ w.atCommand s c = w.deposit s cell := by
  cases c with
  | compile _ cell => exact .inr ⟨cell, rfl, rfl⟩
  | complete _ cell _ =>
    by_cases silent : w.profile.complete = none
    · exact .inl (if_pos silent)
    · exact .inr ⟨cell, rfl, if_neg silent⟩
  | _ => exact .inl rfl

/-! ### What a call comes down to -/

/-- A command line leaves everything as it is, or the disk as the launched program has left it. -/
theorem afterCommand_cases (w : Workshop) (line : Option (List String × String)) :
    w.afterCommand line = w ∨
      ∃ program args directory e left, line = some (program :: args, directory) ∧
        w.launch w.disk directory program args = .ok (e, left) ∧
        w.afterCommand line = { w with disk := left } := by
  obtain _ | ⟨argv, directory⟩ := line
  · exact .inl rfl
  cases argv with
  | nil => exact .inl rfl
  | cons program args =>
    cases launched : w.launch w.disk directory program args with
    | error f =>
      left
      simp only [afterCommand, command, launched]
    | ok result =>
      refine .inr ⟨program, args, directory, result.1, result.2, rfl, launched, ?_⟩
      simp only [afterCommand, command, launched]

theorem inspect_launches (w : Workshop) (s : CommandSession) (id : SessionId) (cell : Cell)
    (span : TokenSpan) :
    (w.inspect s cell span).2 = w.afterCommand (w.commandOf? s (.inspect id cell span)) := by
  unfold inspect commandOf?
  cases w.profile.inspect with
  | none => rfl
  | some template =>
    by_cases nothing : span.token cell.source.toList = []
    · simp only [if_pos nothing]
      rfl
    · simp only [if_neg nothing]
      rfl

/-- A call about the cells of a session writes its cell, if it is one to write, and runs its
command line, if it has one. It does nothing else. -/
theorem backend_launches {c : ToolingCall} (known : w.find? s.id = some s)
    (own : c.Concerns s.id) :
    (backend c w).2 = (w.atCommand s c).afterCommand (w.commandOf? s c) := by
  have served {α : Type} (serve : CommandSession → Timed (Outcome α) × Workshop) :
      w.within s.id serve = serve s := by simp only [within, known]
  cases c with
  | compile id cell =>
    obtain rfl : id = s.id := own
    rw [backend, served]
    exact w.compile_launches s s.id cell
  | run id a =>
    obtain rfl : id = s.id := own
    rw [backend, served]
    rfl
  | complete id cell span =>
    obtain rfl : id = s.id := own
    rw [backend, served, atCommand]
    by_cases silent : w.profile.complete = none
    · rw [if_pos silent, complete, commandOf?, silent]
      rfl
    · rw [if_neg silent]
      exact w.complete_launches s s.id cell span silent
  | inspect id cell span =>
    obtain rfl : id = s.id := own
    rw [backend, served]
    exact w.inspect_launches s s.id cell span
  | start => exact own.elim
  | dispose id => exact own.elim
  | kill id => exact own.elim

/-- The same launcher, the same profile and the same sessions. -/
structure Equipped (w w' : Workshop) : Prop where
  launch : w'.launch = w.launch
  profile : w'.profile = w.profile
  sessions : w'.sessions = w.sessions

theorem Equipped.refl (w : Workshop) : Equipped w w := ⟨rfl, rfl, rfl⟩

theorem Equipped.trans {w'' : Workshop} (first : Equipped w w') (second : Equipped w' w'') :
    Equipped w w'' :=
  ⟨second.launch.trans first.launch, second.profile.trans first.profile,
    second.sessions.trans first.sessions⟩

theorem deposit_equipped (w : Workshop) (s : CommandSession) (cell : Cell) :
    Equipped w (w.deposit s cell) := by
  obtain unchanged | ⟨m, p, disk, -, -, changed⟩ := w.deposit_cases s cell
  · rw [unchanged]
    exact .refl w
  · rw [changed]
    exact ⟨rfl, rfl, rfl⟩

theorem atCommand_equipped (w : Workshop) (s : CommandSession) (c : ToolingCall) :
    Equipped w (w.atCommand s c) := by
  obtain same | ⟨cell, -, same⟩ := w.atCommand_cases s c
  · rw [same]
    exact .refl w
  · rw [same]
    exact w.deposit_equipped s cell

/-- Asking about cells leaves the launcher, the profile and the sessions alone. -/
theorem backend_equipped {c : ToolingCall} (known : w.find? s.id = some s)
    (own : c.Concerns s.id) : Equipped w (backend c w).2 := by
  refine (w.atCommand_equipped s c).trans ?_
  rw [backend_launches known own]
  obtain same | ⟨_, _, _, _, _, -, -, changed⟩ := (w.atCommand s c).afterCommand_cases
    (w.commandOf? s c)
  · rw [same]
    exact .refl _
  · rw [changed]
    exact ⟨rfl, rfl, rfl⟩

/-! ### Calls whose commands leave the sources alone -/

/-- Nothing happens to the source directory after the cell of the call has been written. -/
theorem Spares.left {c : ToolingCall} (spares : w.Spares s c) (known : w.find? s.id = some s)
    (own : c.Concerns s.id) {p : Path} (inside : Inside (sources s) p) :
    (backend c w).2.disk.get? p = (w.atCommand s c).disk.get? p := by
  rw [backend_launches known own]
  obtain same | ⟨program, args, directory, e, left, line, launched, changed⟩ :=
    (w.atCommand s c).afterCommand_cases (w.commandOf? s c)
  · rw [same]
  · rw [(w.atCommand_equipped s c).launch] at launched
    rw [changed]
    exact spares program args directory line e left launched p inside

theorem deposit_of_ok (wrote : w.writeCell s cell = .ok (module, path, w')) :
    w.deposit s cell = w' := by
  simp only [deposit, wrote]

/-- Inside of the source directory, a call whose command spares it changes no more than the file
of its cell. -/
theorem Spares.changes {c : ToolingCall} (spares : w.Spares s c)
    (known : w.find? s.id = some s) (own : c.Concerns s.id) (flat : w.disk.Flat (sources s))
    (separate : '/' ∉ stem.toList) (numbered : ∀ cell ∈ c.cell?, Numbered stem cell) {p : Path}
    (inside : Inside (sources s) p) :
    (backend c w).2.disk.get? p = w.disk.get? p ∨
      ∃ cell m path w', c.cell? = some cell ∧ w.writeCell s cell = .ok (m, path, w') ∧
        p = place path ∧ (backend c w).2.disk.get? p = some (.file (utf8 cell.source)) := by
  rw [spares.left known own inside]
  obtain same | ⟨cell, about, same⟩ := w.atCommand_cases s c
  · rw [same]
    exact .inl rfl
  rw [same]
  cases wrote : w.writeCell s cell with
  | error e =>
    have nothing : w.deposit s cell = w := by simp only [deposit, wrote]
    rw [nothing]
    exact .inl rfl
  | ok result =>
    obtain ⟨m, path, w'⟩ := result
    obtain ⟨-, -, -, changed⟩ := writeCell_numbered (numbered cell about) separate flat wrote
    rw [deposit_of_ok wrote, changed]
    by_cases here : p = place path
    · refine .inr ⟨cell, m, path, w', about, wrote, here, ?_⟩
      rw [here]
      exact get?_put_same (here ▸ inside.ne_root)
    · exact .inl (get?_put_other here)

theorem Spares.flat {c : ToolingCall} (spares : w.Spares s c) (known : w.find? s.id = some s)
    (own : c.Concerns s.id) (flat : w.disk.Flat (sources s)) (separate : '/' ∉ stem.toList)
    (numbered : ∀ cell ∈ c.cell?, Numbered stem cell) :
    (backend c w).2.disk.Flat (sources s) := by
  intro p inside
  obtain same | ⟨cell, _, _, _, -, -, -, file⟩ :=
    spares.changes known own flat separate numbered inside
  · rw [isDirectory, same]
    exact flat p inside
  · rw [isDirectory, file]
    rfl

/-- A cell that the compiler is called for is in its file afterwards, if it could be written. -/
theorem Spares.compiled (spares : w.Spares s (.compile s.id cell))
    (known : w.find? s.id = some s) (flat : w.disk.Flat (sources s)) (separate : '/' ∉ stem.toList)
    (numbered : Numbered stem cell) (wrote : w.writeCell s cell = .ok (module, path, w')) :
    Inside (sources s) (place path) ∧
      (backend (.compile s.id cell) w).2.disk.get? (place path) =
        some (.file (utf8 cell.source)) := by
  obtain ⟨-, -, there, changed⟩ := writeCell_numbered numbered separate flat wrote
  have inside : Inside (sources s) (place path) := there ▸ inside_append _ _
  refine ⟨inside, ?_⟩
  rw [spares.left known rfl inside, atCommand, deposit_of_ok wrote, changed]
  exact get?_put_same inside.ne_root

end Workshop

end NotebookKernel
