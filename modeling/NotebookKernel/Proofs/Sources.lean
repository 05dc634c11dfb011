import NotebookKernel.Machine.Workshop
import NotebookKernel.Proofs.Filing
import NotebookKernel.Proofs.Submissions

/-!
# Sources on the disk

The compiler is called for the setup cell and for cells of the log. Where cells are named after
their numbers, each of them has a file of its own, and a question for completions writes the file
of the number that comes next. So a source that has been written for the compiler stays as it is,
as long as the commands leave the source directory alone.
-/

namespace NotebookKernel

open Disk

namespace Workshop

variable {b : Notebook} {w : Workshop} {s : CommandSession} {stem : String} {as : List Action}
  {cell : Cell} {path : String}

/-- No program that is launched in the course of actions writes into the source directory. -/
def Spared (s : CommandSession) (w : Workshop) (as : List Action) : Prop :=
  ∀ before c after, as = before ++ .call c :: after → (backend.after w before).Spares s c

/-- The program that a call launches leaves the disk as it finds it. -/
def tidy (s : CommandSession) (w : Workshop) (c : ToolingCall) : Bool :=
  match w.commandOf? s c with
  | some (program :: args, directory) =>
      match w.launch (w.atCommand s c).disk directory program args with
      | .ok (_, left) => decide (left.entries = (w.atCommand s c).disk.entries)
      | .error _ => true
  | _ => true

/-- No program that is launched in the course of actions changes the disk at all. -/
def untouched (s : CommandSession) (w : Workshop) : List Action → Bool
  | [] => true
  | .call c :: rest => w.tidy s c && (backend c w).2.untouched s rest
  | _ :: rest => w.untouched s rest

/-- In the course of actions a call of the compiler has written its cell to a path. -/
def Wrote (s : CommandSession) (w : Workshop) (as : List Action) (cell : Cell) (path : String) :
    Prop :=
  ∃ before id after m w', as = before ++ .call (.compile id cell) :: after ∧
    (backend.after w before).writeCell s cell = .ok (m, path, w')

/-- The session and the names of its cells. -/
structure Serves (b : Notebook) (s : CommandSession) (stem : String) (w : Workshop) : Prop where
  known : w.find? s.id = some s
  session : b.lease.session = s.id
  naming : b.naming = .sequential stem
  setup : Numbered stem b.setup ∧ b.setup.sequence < 0
  separate : '/' ∉ stem.toList

/-- Each source that was written for the compiler is in the file for its cell. -/
structure Filed (s : CommandSession) (w : Workshop) (as : List Action) : Prop where
  equipped : Equipped w (backend.after w as)
  flat : (backend.after w as).disk.Flat (sources s)
  kept : ∀ cell path, Wrote s w as cell path → ∃ m, cell.module = some m ∧
    place path = sources s ++ [fileName w.profile.language.fileExtension m] ∧
    (backend.after w as).disk.get? (place path) = some (.file (utf8 cell.source))

theorem Spared.earlier {more : List Action} (spared : Spared s w (as ++ more)) :
    Spared s w as := by
  intro before c after same
  refine spared before c (after ++ more) ?_
  rw [same, List.append_assoc, List.cons_append]

theorem spares_of_tidy {c : ToolingCall} (tidy : w.tidy s c = true) : w.Spares s c := by
  intro program args directory line e left launched p inside
  simp only [Workshop.tidy, line, launched] at tidy
  rw [get?, get?, of_decide_eq_true tidy]

theorem spared_of_untouched (same : w.untouched s as = true) : Spared s w as := by
  rintro before c after rfl
  induction before generalizing w with
  | nil =>
    rw [List.nil_append, untouched, Bool.and_eq_true] at same
    exact spares_of_tidy same.1
  | cons a before ih =>
    rw [List.cons_append] at same
    cases a with
    | call d =>
      rw [untouched, Bool.and_eq_true] at same
      exact ih same.2
    | _ => exact ih same

theorem Serves.numbered (serves : Serves b s stem w) (accepted : b.Accepts as)
    (member : cell = b.setup ∨ cell ∈ submittedIn b.naming as) : Numbered stem cell := by
  obtain rfl | member := member
  · exact serves.setup.1
  · have low := (accepted.sequence_lt member).1
    have made := submitted_made member
    rw [serves.naming] at made
    exact ⟨by omega, made⟩

/-- The cells that a call which keeps to the log may write are numbered. -/
theorem Serves.about (serves : Serves b s stem w) (accepted : b.Accepts as) {c : ToolingCall}
    (allowed : b.Allows (submittedIn b.naming as) (.call c)) :
    c.Concerns s.id ∧ ∀ cell ∈ c.cell?, Numbered stem cell := by
  rw [← serves.session]
  cases c with
  | compile id cell =>
    refine ⟨allowed.1, fun d same => ?_⟩
    obtain rfl := Option.some.inj same
    exact serves.numbered accepted allowed.2
  | complete id cell span =>
    obtain ⟨own, text, rfl⟩ := allowed
    refine ⟨own, fun d same => ?_⟩
    obtain rfl := Option.some.inj same
    rw [serves.naming]
    refine ⟨?_, rfl⟩
    change -1 ≤ ((submittedIn _ as).length : Int)
    omega
  | run id a => exact ⟨allowed, fun d same => nomatch same⟩
  | inspect id cell span => exact ⟨allowed, fun d same => nomatch same⟩
  | start => exact allowed.elim
  | dispose id => exact allowed.elim
  | kill id => exact allowed.elim

theorem Wrote.snoc {a : Action} (wrote : Wrote s w (as ++ [a]) cell path) :
    Wrote s w as cell path ∨ ∃ id m w', a = .call (.compile id cell) ∧
      (backend.after w as).writeCell s cell = .ok (m, path, w') := by
  obtain ⟨before, id, after, m, w', whole, written⟩ := wrote
  obtain ⟨rfl, rfl⟩ | ⟨more, earlier⟩ := stands_snoc whole.symm
  · exact .inr ⟨id, m, w', rfl, written⟩
  · exact .inl ⟨before, id, more, m, w', earlier.symm, written⟩

/-- The compiler is called for the setup cell and for cells of the log. -/
theorem Wrote.submitted (wrote : Wrote s w as cell path) (accepted : b.Accepts as) :
    cell = b.setup ∨ cell ∈ submittedIn b.naming as := by
  obtain ⟨before, id, after, m, w', rfl, -⟩ := wrote
  obtain ⟨-, -, setup | member⟩ := accepted.split
  · exact .inl setup
  · refine .inr ?_
    rw [submittedIn_append]
    exact List.mem_append_left _ member

/-- Two cells that the compiler is called for are one, if they have one number. -/
theorem Serves.cell_eq (serves : Serves b s stem w) (accepted : b.Accepts as) {cell' : Cell}
    (member : cell = b.setup ∨ cell ∈ submittedIn b.naming as)
    (member' : cell' = b.setup ∨ cell' ∈ submittedIn b.naming as)
    (same : cell.sequence = cell'.sequence) : cell = cell' := by
  have low := serves.setup.2
  obtain rfl | member := member
  · obtain rfl | member' := member'
    · rfl
    · have high := (accepted.sequence_lt member').1
      omega
  · have high := (accepted.sequence_lt member).1
    obtain rfl | member' := member'
    · omega
    · exact accepted.sequence_injective member member' same

theorem Filed.start (flat : w.disk.Flat (sources s)) : Filed s w [] where
  equipped := .refl w
  flat := flat
  kept := by
    rintro cell path ⟨before, id, after, m, w', same, -⟩
    simp at same

/-- A call that keeps to the log may write a cell with the number of one that the compiler has been
called for only if it is that cell. A question for completions never does. -/
theorem Serves.again {c : ToolingCall} {cell' : Cell} (serves : Serves b s stem w)
    (accepted : b.Accepts as) (allowed : b.Allows (submittedIn b.naming as) (.call c))
    (member : cell = b.setup ∨ cell ∈ submittedIn b.naming as) (about : c.cell? = some cell')
    (same : cell.sequence = cell'.sequence) : cell = cell' := by
  cases c with
  | compile id d =>
    obtain rfl := Option.some.inj about
    exact serves.cell_eq accepted member allowed.2 same
  | complete id d span =>
    obtain rfl := Option.some.inj about
    obtain ⟨-, text, rfl⟩ := allowed
    have next : cell.sequence = (submittedIn b.naming as).length := same
    obtain rfl | member := member
    · have low := serves.setup.2
      omega
    · have high := (accepted.sequence_lt member).2
      omega
  | _ => cases about

theorem Filed.known (h : Filed s w as) (serves : Serves b s stem w) :
    (backend.after w as).find? s.id = some s := by
  rw [find?, h.equipped.sessions]
  exact serves.known

/-- Where a cell of a call is written. -/
theorem Filed.placed (h : Filed s w as) (serves : Serves b s stem w) {m : String} {w' : Workshop}
    (numbered : Numbered stem cell)
    (written : (backend.after w as).writeCell s cell = .ok (m, path, w')) :
    cell.module = some m ∧ path = cellPath w.profile s.project m ∧
      place path = sources s ++ [fileName w.profile.language.fileExtension m] := by
  obtain ⟨named, there, placed, -⟩ := writeCell_numbered numbered serves.separate h.flat written
  rw [h.equipped.profile] at there placed
  exact ⟨named, there, placed⟩

/-- What has been written for the compiler is as it was after a call, or it is written again. -/
theorem Filed.calls {c : ToolingCall} (h : Filed s w as) (serves : Serves b s stem w)
    (accepted : b.Accepts as) (allowed : b.Allows (submittedIn b.naming as) (.call c))
    (spares : (backend.after w as).Spares s c) : Filed s w (as ++ [.call c]) := by
  have called : backend.after w (as ++ [.call c]) = (backend c (backend.after w as)).2 := by
    rw [Backend.after_append]
    rfl
  have known := h.known serves
  obtain ⟨own, numbered⟩ := serves.about accepted allowed
  refine ⟨?_, ?_, fun cell path wrote => ?_⟩
  · rw [called]
    exact h.equipped.trans (backend_equipped known own)
  · rw [called]
    exact spares.flat known own h.flat serves.separate numbered
  rw [called]
  obtain earlier | ⟨id, m, w', same, written⟩ := wrote.snoc
  · obtain ⟨m, named, there, file⟩ := h.kept cell path earlier
    refine ⟨m, named, there, ?_⟩
    have inside : Inside (sources s) (place path) := there ▸ inside_append _ _
    obtain same | ⟨cell', m', path', w', about, written, here, file'⟩ :=
      spares.changes known own h.flat serves.separate numbered inside
    · rw [same]
      exact file
    · -- the call writes to this very file, so it is about the same cell
      have number' := numbered cell' about
      obtain ⟨named', -, there'⟩ := h.placed serves number' written
      have member := earlier.submitted accepted
      have same : cell.sequence = cell'.sequence :=
        (serves.numbered accepted member).sequence_eq number' named named'
          (there.symm.trans (here.trans there'))
      rw [serves.again accepted allowed member about same]
      exact file'
  · cases same
    obtain ⟨named, -, there⟩ := h.placed serves (numbered cell rfl) written
    refine ⟨m, named, there, ?_⟩
    obtain rfl : id = s.id := own
    exact (spares.compiled known h.flat serves.separate (numbered cell rfl) written).2

theorem Filed.aside {a : Action} (h : Filed s w as) (aside : ∀ c, a ≠ .call c) :
    Filed s w (as ++ [a]) := by
  have same : backend.after w (as ++ [a]) = backend.after w as := by
    rw [Backend.after_append]
    cases a with
    | call c => exact absurd rfl (aside c)
    | _ => rfl
  refine ⟨same ▸ h.equipped, same ▸ h.flat, fun cell path wrote => ?_⟩
  obtain earlier | ⟨id, m, w', rfl, -⟩ := wrote.snoc
  · rw [same]
    exact h.kept cell path earlier
  · exact absurd rfl (aside _)

/-- Actions that keep to the log leave what has been written for the compiler as it is. -/
theorem Serves.filed (serves : Serves b s stem w) (flat : w.disk.Flat (sources s))
    (accepted : b.Accepts as) (spared : Spared s w as) : Filed s w as := by
  induction accepted with
  | nil => exact .start flat
  | @snoc as a before allowed ih =>
    by_cases calls : ∃ c, a = .call c
    · obtain ⟨c, rfl⟩ := calls
      exact (ih spared.earlier).calls serves before allowed (spared as c [] rfl)
    · exact (ih spared.earlier).aside fun c same => calls ⟨c, same⟩

/-- A question for completions writes no file in the source directory but that of its cell. -/
theorem Filed.completes {id : SessionId} {span : TokenSpan} (h : Filed s w as)
    (serves : Serves b s stem w) (accepted : b.Accepts as)
    (allowed : b.Allows (submittedIn b.naming as) (.call (.complete id cell span)))
    (spares : (backend.after w as).Spares s (.complete id cell span)) :
    ∃ m, cell.module = some m ∧
      ∀ p, Inside (sources s) p → p ≠ place (cellPath w.profile s.project m) →
        (backend.after w (as ++ [.call (.complete id cell span)])).disk.get? p =
          (backend.after w as).disk.get? p := by
  obtain ⟨own, numbered⟩ := serves.about accepted allowed
  have number := numbered cell rfl
  refine ⟨_, number.named, fun p inside other => ?_⟩
  rw [Backend.after_append]
  obtain same | ⟨cell', m, path, w', about, written, rfl, -⟩ :=
    spares.changes (h.known serves) own h.flat serves.separate numbered inside
  · exact same
  · obtain rfl := Option.some.inj about
    obtain ⟨named, rfl, -⟩ := h.placed serves number written
    rw [number.named] at named
    rw [← Option.some.inj named] at other
    exact absurd rfl other

end Workshop

namespace Kernel

open Workshop

/-- A kernel has a session to work with, in which nothing has been submitted yet. Its cells are
named by a stem without separators, and there are no directories in the source directory, as when
it was made. -/
structure Opened (config : KernelConfig) (s : CommandSession) (stem : String)
    (k : Kernel Workshop) : Prop where
  quiet : k.Quiet
  live : k.supervisor.lease? = some ⟨s.id, k.supervisor.generation⟩
  known : k.tooling.find? s.id = some s
  naming : config.naming = .sequential stem
  separate : '/' ∉ stem.toList
  blank : k.present.cells = Session.emptyCells config
  flat : k.tooling.disk.Flat (sources s)

variable {config : KernelConfig} {k : Kernel Workshop} {s : CommandSession} {stem : String}

/-- What stays the same while the session of a kernel is live. -/
def notebook (k : Kernel Workshop) (config : KernelConfig) (s : CommandSession) : Notebook where
  naming := config.naming
  setup := .make config.naming Cell.setupSequence config.setupSource
  lease := ⟨s.id, k.supervisor.generation⟩

theorem Opened.serves (opened : k.Opened config s stem) :
    Workshop.Serves (k.notebook config s) s stem k.tooling where
  known := opened.known
  session := rfl
  naming := opened.naming
  setup := by
    rw [notebook, opened.naming]
    exact ⟨⟨Int.le_refl _, rfl⟩, Int.negSucc_lt_zero 0⟩
  separate := opened.separate

theorem Opened.rests (opened : k.Opened config s stem) (backs : k.backend = Workshop.backend) :
    k.core.Rests (k.notebook config s) Workshop.backend k.tooling k.journal.length := by
  have nothing : k.core.since k.journal.length = [] := by
    change actionsIn (k.journal.drop k.journal.length) = []
    rw [List.drop_length]
    rfl
  have cells : k.present.cells = .new config.naming config.setupSource := opened.blank
  refine ⟨⟨backs, opened.live, rfl, Nat.le_refl _, ?_, ?_⟩, ?_⟩
  · rw [nothing]
    rfl
  · rw [nothing]
    exact .nil
  · rw [log, nothing]
    change k.present.Tends _ _
    refine ⟨Session.adopt_generation _ _, ⟨"", ?_⟩, ?_, ?_⟩
    · rw [cells]
      exact CellStore.new_drafted _ _
    · rw [cells]
      rfl
    · rw [cells]
      rfl

/-- A kernel is open once its tooling has been started, if no server comes with it and its project
is new. -/
theorem started_opened (config : KernelConfig) (launch : Launcher) (profile : ToolingProfile)
    (workingDir : String) (disk : Disk) (obedient : Bool) {stem : String}
    (alone : profile.server = none) (naming : config.naming = .sequential stem)
    (separate : '/' ∉ stem.toList)
    (unused : ∀ e ∈ disk.entries, ¬["tmp", "nbk-1", "src"] <+: e.1) :
    let w := Workshop.newWith launch profile workingDir disk
    ((new config Workshop.backend w obedient).play started).Opened config
      ⟨1, "/tmp/nbk-1", none, none⟩ stem := by
  intro w
  let s : CommandSession := ⟨1, "/tmp/nbk-1", none, none⟩
  let made := (disk.makeDirectory ["tmp"]).makeDirectory ["tmp", "nbk-1", "src"]
  have starts : Workshop.backend .start w =
      (.now (.value 1), ⟨launch, profile, workingDir, made, [s], 1⟩) := by
    simp only [w, Workshop.backend, Workshop.start, Workshop.newWith, alone]
    rfl
  have directory : sources s = ["tmp", "nbk-1", "src"] := by decide
  rw [play_started config Workshop.backend obedient starts]
  refine ⟨⟨rfl, rfl, rfl, rfl, ?_⟩, rfl, rfl, naming, separate, rfl, ?_⟩
  · cases obedient <;> rfl
  · refine flat_of_entries fun e member inside => ?_
    rw [directory] at inside
    have above : e ∈ disk.entries ∨ e.1 <+: ["tmp", "nbk-1", "src"] := by
      obtain first | second := mem_makeDirectory member
      · exact (mem_makeDirectory first).imp_right fun upper => upper.trans (by decide)
      · exact .inr second
    obtain old | above := above
    · exact unused e old inside.1
    · exact inside.2 (above.eq_of_length_le inside.1.length_le)

/-- Whatever the shell is asked on one session, however the requests end, and whenever one looks:
each cell that a call of the compiler has written, the setup cell or a submitted one, is in its file
in the source directory with its very source, if the commands that are run leave that directory
alone. A question for completions is about the cell that will be submitted next, and writes no file
in the source directory but that of this cell. -/
theorem submitted_sources_kept (config : KernelConfig) (w : Workshop) (obedient : Bool)
    (past moves : List (Move Workshop)) (s : CommandSession) (stem : String) :
    let k := (new config Workshop.backend w obedient).play past
    let actions := (k.play moves).since k.journal.length
    let submitted := submittedIn config.naming
    let after := Workshop.backend.after k.tooling
    k.Opened config s stem → (∀ m ∈ moves, m.OfShell) →
    (∀ r ∈ k.awaiting moves, r.msgType ≠ Service.shutdown.msgType) →
    k.tooling.Spared s actions →
    (k.play moves).tooling = after actions ∧
    ((k.play moves).shell.busy = false →
      (k.play moves).present.cells.submitted = submitted actions) ∧
    (∀ cell path, k.tooling.Wrote s actions cell path →
      (cell = .make config.naming Cell.setupSequence config.setupSource ∨
        cell ∈ submitted actions) ∧
      Inside (sources s) (place path) ∧
      (k.play moves).tooling.disk.get? (place path) = some (.file (utf8 cell.source))) ∧
    ∀ before i cell span more, actions = before ++ .call (.complete i cell span) :: more →
      (∃ text, cell = .make config.naming (submitted before).length text) ∧
      (∀ c ∈ submitted before, c.sequence < cell.sequence) ∧
      ∃ m, cell.module = some m ∧
        ∀ p, Inside (sources s) p → p ≠ place (cellPath k.tooling.profile s.project m) →
          (after (before ++ [.call (.complete i cell span)])).disk.get? p =
            (after before).disk.get? p := by
  intro k actions submitted after opened own stay spared
  have proper : k.Proper := (new_proper config Workshop.backend w obedient).play past
  have backs : k.backend = Workshop.backend := play_backend _ past
  obtain ⟨tended, rests⟩ := play_tended proper opened.quiet (opened.rests backs) moves own stay
  have accepted : (k.notebook config s).Accepts actions := tended.accepted
  have world : (k.play moves).tooling = after actions := tended.world
  have filed := opened.serves.filed opened.flat accepted spared
  refine ⟨world, ?_, ?_, ?_⟩
  · intro free
    have session := (rests free).session.submitted
    have same : (k.play moves).supervisor.generation = k.supervisor.generation :=
      tended.generation
    rw [present, same]
    exact session
  · intro cell path wrote
    obtain ⟨m, -, there, file⟩ := filed.kept cell path wrote
    rw [world]
    exact ⟨wrote.submitted accepted, there ▸ inside_append _ _, file⟩
  · intro before i cell span more whole
    rw [whole] at accepted
    have spared : Spared s k.tooling (before ++ .call (.complete i cell span) :: more) := by
      rw [← whole]
      exact spared
    obtain ⟨earlier, allowed⟩ := accepted.split
    obtain ⟨text, made⟩ := allowed.2
    refine ⟨⟨text, made⟩, fun c member => ?_, ?_⟩
    · rw [made]
      exact (earlier.sequence_lt member).2
    · have filed := opened.serves.filed opened.flat earlier spared.earlier
      exact filed.completes opened.serves earlier allowed (spared before _ more rfl)

/-- Programs that do nothing. The one for completions fails. -/
def inert : ToolingProfile where
  language := ToolingProfile.shell.language
  modulePattern := none
  setupSource := "umask 077"
  compile := ["true"]
  run := ["true"]
  complete := some ["false"]
  inspect := none
  server := none

def inertConfig : KernelConfig := (KernelConfig.standard.applyProfile inert).1

/-- The tooling of these programs has been started. -/
def idle : Kernel Workshop :=
  (new inertConfig Workshop.backend (.new inert "/tmp" .empty) true).play started

def inertSession : CommandSession := ⟨1, "/tmp/nbk-1", none, none⟩

/-- A text is executed, a draft of the next cell is asked about, and then the cell is submitted
without any text. -/
def drafting : List (Move Workshop) :=
  let cursor : Json.Value := .number (.whole (.ofInt 2))
  [.asking "execute_request" [("code", .string "pwd")],
    .asking "complete_request" [("code", .string "tr"), ("cursor_pos", cursor)],
    .asking "execute_request" [("code", .string "")]].flatMap serving

/-- The setup cell and both cells are in their files, the draft is not in any. -/
theorem sources_kept_after_failure :
    (idle.play drafting).tooling.disk.entries.take 3 =
        [(["tmp", "nbk-1", "src", "Cell1.sh"], .file []),
          (["tmp", "nbk-1", "src", "Cell0.sh"], .file (utf8 "pwd")),
          (["tmp", "nbk-1", "src", "CellSetup.sh"], .file (utf8 "umask 077"))] ∧
    ∀ cell path, idle.tooling.Wrote inertSession
        ((idle.play drafting).since idle.journal.length) cell path →
      (idle.play drafting).tooling.disk.get? (place path) = some (.file (utf8 cell.source)) := by
  have opened : idle.Opened inertConfig inertSession "Cell" :=
    started_opened inertConfig Disk.launch inert "/tmp" .empty true rfl rfl (by decide) (by decide)
  have own : ∀ m ∈ drafting, m.OfShell := by
    intro m member
    obtain ⟨asked, -, among⟩ := List.mem_flatMap.mp member
    exact serving_ofShell asked m among
  have stay : ∀ r ∈ idle.awaiting drafting, r.msgType ≠ Service.shutdown.msgType := by
    decide +kernel
  have spared : idle.tooling.Spared inertSession
      ((idle.play drafting).since idle.journal.length) :=
    spared_of_untouched (by decide +kernel)
  refine ⟨by decide +kernel, fun cell path wrote => ?_⟩
  obtain ⟨-, -, kept, -⟩ := submitted_sources_kept inertConfig (.new inert "/tmp" .empty) true
    started drafting inertSession "Cell" opened own stay spared
  obtain ⟨-, -, file⟩ := kept cell path wrote
  rw [← idle] at file
  exact file

end Kernel

end NotebookKernel
