import NotebookKernel.Proofs.Chronicle

/-!
# The story of the compilations

Of what the shell does the story keeps which executions were accepted, which cells were compiled
on which session of the tooling, and when a request was done with. It is a list
of remarks, and what may come next depends on what came before.
-/

namespace NotebookKernel

def Outcome.isValue {α : Type} : Outcome α → Bool
  | value _ => true
  | _ => false

inductive Remark where
  /-- An execution is accepted, and its cell is given a number. -/
  | accepted (count : Int)
  | compiled (session : SessionId) (cell : Cell) (built : Bool)
  | served
  deriving DecidableEq

/-- Is an execution of the setup cell owed? -/
inductive Debt where
  | clear
  /-- It has failed, and has to be compiled again for the next execution. -/
  | failed
  /-- That execution has been accepted. -/
  | due
  deriving DecidableEq

namespace Remark

/-- Was it built, if the remark is about the setup cell on this session? -/
def setup? (c : SessionId) : Remark → Option Bool
  | compiled d cell built => if d = c ∧ cell.isSetup = true then some built else none
  | _ => none

/-- The number, if the remark is about a cell of a user on this session. -/
def user? (c : SessionId) : Remark → Option Int
  | compiled d cell _ => if d = c ∧ cell.isSetup = false then some cell.sequence else none
  | _ => none

def settle (d : Debt) : Remark → Debt
  | accepted _ => if d = .failed then .due else d
  | compiled _ cell built => if cell.isSetup then (if built then .clear else .failed) else d
  | served => d

end Remark

def Incident.remark? : Incident → Option Remark
  | did ⟨.emit (.broadcast _ (.executeInput _ n)), _⟩ => some (.accepted n)
  | did ⟨.call (.compile c cell), x⟩ => some (.compiled c cell x.isValue)
  | served _ _ => some .served
  | _ => none

/-- The story that a chronicle tells. -/
def story (past : List Incident) : List Remark := past.filterMap Incident.remark?

/-- How the compilations of the setup cell on a session ended. -/
def setups (c : SessionId) (remarks : List Remark) : List Bool :=
  remarks.filterMap (Remark.setup? c)

/-- The numbers of the cells of users that were compiled on a session. -/
def users (c : SessionId) (remarks : List Remark) : List Int := remarks.filterMap (Remark.user? c)

def debt (remarks : List Remark) : Debt := remarks.foldl Remark.settle .clear

/-- What is not recorded is not noted either. -/
theorem Incident.isRecorded_of_remark {x : Incident} {n : Remark} (h : x.remark? = some n) :
    x.isRecorded = true := by
  unfold remark? at h
  split at h <;> first | rfl | cases h

theorem story_filter (past : List Incident) :
    story (past.filter Incident.isRecorded) = story past := by
  unfold story
  rw [List.filterMap_filter]
  refine congrArg (List.filterMap · past) (funext fun x => ?_)
  cases noted : x.remark? with
  | none => exact ite_self _
  | some n => exact if_pos (Incident.isRecorded_of_remark noted)

@[simp] theorem story_append (past more : List Incident) :
    story (past ++ more) = story past ++ story more :=
  List.filterMap_append

@[simp] theorem story_installed (cs : List SessionId) : story (cs.map .installed) = [] := by
  simp [story, List.filterMap_map, Function.comp_def, Incident.remark?]

@[simp] theorem story_begun (r : Request) : story [.begun r] = [] := rfl

@[simp] theorem story_served (r : Request) (v : Verdict) : story [.served r v] = [.served] := rfl

@[simp] theorem setups_append (c : SessionId) (remarks more : List Remark) :
    setups c (remarks ++ more) = setups c remarks ++ setups c more :=
  List.filterMap_append

@[simp] theorem users_append (c : SessionId) (remarks more : List Remark) :
    users c (remarks ++ more) = users c remarks ++ users c more :=
  List.filterMap_append

@[simp] theorem setups_nil (c : SessionId) : setups c [] = [] := rfl

@[simp] theorem users_nil (c : SessionId) : users c [] = [] := rfl

@[simp] theorem setups_accepted (c : SessionId) (n : Int) : setups c [.accepted n] = [] := rfl

@[simp] theorem users_accepted (c : SessionId) (n : Int) : users c [.accepted n] = [] := rfl

@[simp] theorem setups_served (c : SessionId) : setups c [.served] = [] := rfl

@[simp] theorem users_served (c : SessionId) : users c [.served] = [] := rfl

@[simp] theorem setups_compiled (c d : SessionId) (cell : Cell) (built : Bool) :
    setups c [.compiled d cell built] = if d = c ∧ cell.isSetup = true then [built] else [] := by
  simp only [setups, List.filterMap_cons, Remark.setup?]
  split <;> simp_all

@[simp] theorem users_compiled (c d : SessionId) (cell : Cell) (built : Bool) :
    users c [.compiled d cell built] =
      if d = c ∧ cell.isSetup = false then [cell.sequence] else [] := by
  simp only [users, List.filterMap_cons, Remark.user?]
  split <;> simp_all

@[simp] theorem debt_append (remarks : List Remark) (x : Remark) :
    debt (remarks ++ [x]) = x.settle (debt remarks) := by
  simp [debt]

/-- What may come next. Cells of users are compiled with rising numbers, and where the setup cell
has been built if all is calm; the setup cell is compiled until it is built, and at once if that
is due. -/
def Remark.Follows (calm : Prop) (remarks : List Remark) : Remark → Prop
  | accepted _ => debt remarks ≠ .due
  | served => debt remarks ≠ .due
  | compiled c cell _ =>
      (cell.isSetup = true → debt remarks ≠ .failed ∧ true ∉ setups c remarks) ∧
        (cell.isSetup = false → debt remarks = .clear ∧ (calm → true ∈ setups c remarks) ∧
          ∀ n ∈ users c remarks, n < cell.sequence)

/-- Every remark follows from those before it. -/
inductive Told (calm : Prop) : List Remark → Prop
  | nothing : Told calm []
  | next {remarks : List Remark} {x : Remark} (told : Told calm remarks)
      (follows : x.Follows calm remarks) : Told calm (remarks ++ [x])

/-- Cells of users are compiled only where the setup cell has been built. -/
def SetUpFirst (remarks : List Remark) : Prop :=
  ∀ before c cell built after, remarks = before ++ .compiled c cell built :: after →
    cell.isSetup = false → true ∈ setups c before

/-- Where the setup cell has been built it is not compiled again. -/
def SetUpOnce (remarks : List Remark) : Prop :=
  ∀ c before after, setups c remarks = before ++ true :: after → after = []

/-- When the setup cell could not be built, it is the first that is compiled for the next
execution that is accepted. -/
def SetUpAgain (remarks : List Remark) : Prop :=
  ∀ before c setup mid n next after,
    remarks = before ++ .compiled c setup false :: (mid ++ .accepted n :: next :: after) →
    setup.isSetup = true → (∀ m, .accepted m ∉ mid) →
    ∃ d cell built, next = .compiled d cell built ∧ cell.isSetup = true

/-- The numbers of the cells of users that are compiled on one session rise. -/
def Rising (remarks : List Remark) : Prop := ∀ c, (users c remarks).Pairwise (· < ·)

namespace Told

variable {calm : Prop} {remarks before after : List Remark} {x : Remark}

theorem split (h : Told calm (before ++ x :: after)) :
    Told calm before ∧ x.Follows calm before := by
  generalize whole : before ++ x :: after = remarks at h
  induction h generalizing after with
  | nothing => simp at whole
  | @next remarks y told follows ih =>
    rcases List.eq_nil_or_concat after with rfl | ⟨more, last, rfl⟩
    · obtain ⟨rfl, same⟩ := List.append_inj' whole rfl
      cases same
      exact ⟨told, follows⟩
    · rw [List.concat_eq_append, ← List.cons_append, ← List.append_assoc] at whole
      obtain ⟨rest, _⟩ := List.append_inj' whole rfl
      exact ih rest

theorem setUpFirst (h : Told calm remarks) (quiet : calm) : SetUpFirst remarks := by
  rintro before c cell built after rfl user
  exact (h.split.2.2 user).2.1 quiet

theorem rising (h : Told calm remarks) : Rising remarks := by
  intro c
  induction h with
  | nothing => exact .nil
  | @next remarks x _ follows ih =>
    rw [users_append, List.pairwise_append]
    refine ⟨ih, ?_, ?_⟩
    · cases x with
      | compiled d cell built =>
        rw [users_compiled]
        split <;> simp
      | _ => exact .nil
    · intro m earlier n last
      cases x with
      | compiled d cell built =>
        rw [users_compiled] at last
        split at last
        · rename_i own
          obtain ⟨rfl, user⟩ := own
          rw [List.mem_singleton.mp last]
          exact (follows.2 user).2.2 m earlier
        · cases last
      | accepted n => cases last
      | served => cases last

theorem setUpOnce (h : Told calm remarks) : SetUpOnce remarks := by
  intro c before after
  induction h generalizing after with
  | nothing => simp
  | @next remarks x _ follows ih =>
    rw [setups_append]
    cases x with
    | accepted n => simpa using ih after
    | served => simpa using ih after
    | compiled d cell built =>
      rw [setups_compiled]
      split
      · rename_i own
        obtain ⟨rfl, setup⟩ := own
        intro whole
        rcases List.eq_nil_or_concat after with rfl | ⟨more, last, rfl⟩
        · rfl
        · rw [List.concat_eq_append, ← List.cons_append, ← List.append_assoc] at whole
          obtain ⟨same, _⟩ := List.append_inj' whole rfl
          exact absurd (by simp [same]) (follows.1 setup).2
      · simpa using ih after

/-- A failure of the setup cell is remembered until the next execution is accepted. -/
theorem debt_failed {c : SessionId} {setup : Cell} {mid : List Remark}
    (h : Told calm (before ++ .compiled c setup false :: mid)) (isSetup : setup.isSetup = true)
    (none : ∀ m, .accepted m ∉ mid) :
    debt (before ++ .compiled c setup false :: mid) = .failed := by
  -- A cell of a user needs a clear debt, so none is compiled in between.
  induction mid using List.reverseRecOn with
  | nil => simp [Remark.settle, isSetup]
  | append_singleton mid x ih =>
    rw [← List.cons_append, ← List.append_assoc] at h ⊢
    obtain ⟨earlier, follows⟩ := h.split
    have same := ih earlier fun m inside => none m (List.mem_append_left _ inside)
    rw [debt_append, same]
    cases x with
    | accepted n => exact absurd (by simp) (none n)
    | served => rfl
    | compiled d cell built =>
      cases own : cell.isSetup with
      | true => exact absurd same (follows.1 own).1
      | false =>
        rw [(follows.2 own).1] at same
        cases same

theorem setUpAgain (h : Told calm remarks) : SetUpAgain remarks := by
  rintro before c setup mid n next after rfl isSetup none
  have upTo : before ++ .compiled c setup false :: (mid ++ .accepted n :: next :: after) =
      (before ++ .compiled c setup false :: mid ++ [.accepted n]) ++ next :: after := by simp
  rw [upTo] at h
  obtain ⟨told, follows⟩ := h.split
  have failed := debt_failed told.split.1 isSetup none
  have due : debt (before ++ .compiled c setup false :: mid ++ [.accepted n]) = .due := by
    rw [debt_append, failed]
    rfl
  cases next with
  | accepted m => exact absurd due follows
  | served => exact absurd due follows
  | compiled d cell built =>
    refine ⟨d, cell, built, rfl, ?_⟩
    cases own : cell.isSetup with
    | true => rfl
    | false =>
      rw [(follows.2 own).1] at due
      cases due

end Told

end NotebookKernel
