import NotebookKernel.Kernel.Job

/-!
# Runs of jobs

A job does not say who answers its actions. Its trace lists what it did together with the
answers it got; every choice of answers leads a job to its end. Statements about a job
quantify over all traces, and with them over everything that may happen in between.
-/

namespace NotebookKernel

/-- An action and the answer to it. -/
structure Occurrence where
  action : Action
  answer : action.Answer

namespace Occurrence

def emission? : Occurrence → Option Emission
  | ⟨.emit e, _⟩ => some e
  | _ => none

def isCall : Occurrence → Bool
  | ⟨.call _, _⟩ => true
  | _ => false

end Occurrence

/-- What is sent in a trace, the oldest first. -/
def sentIn (t : List Occurrence) : List Emission := t.filterMap Occurrence.emission?

/-- The calls to the tooling in a trace. -/
def callsIn (t : List Occurrence) : List Occurrence := t.filter Occurrence.isCall

@[simp] theorem sentIn_nil : sentIn [] = [] := rfl

@[simp] theorem sentIn_emit (e : Emission) (x : Unit) (t : List Occurrence) :
    sentIn (⟨.emit e, x⟩ :: t) = e :: sentIn t := rfl

@[simp] theorem sentIn_generation (g : Nat) (t : List Occurrence) :
    sentIn (⟨.generation, g⟩ :: t) = sentIn t := rfl

@[simp] theorem sentIn_append (t u : List Occurrence) : sentIn (t ++ u) = sentIn t ++ sentIn u :=
  List.filterMap_append

@[simp] theorem callsIn_nil : callsIn [] = [] := rfl

@[simp] theorem callsIn_emit (e : Emission) (x : Unit) (t : List Occurrence) :
    callsIn (⟨.emit e, x⟩ :: t) = callsIn t := rfl

@[simp] theorem callsIn_generation (g : Nat) (t : List Occurrence) :
    callsIn (⟨.generation, g⟩ :: t) = callsIn t := rfl

@[simp] theorem callsIn_append (t u : List Occurrence) :
    callsIn (t ++ u) = callsIn t ++ callsIn u :=
  List.filter_append ..

namespace Job

variable {α β : Type}

/-- With the answers of a trace, the first job comes as far as the second. -/
inductive Goes : Job α → List Occurrence → Job α → Prop
  | here (j : Job α) : Goes j [] j
  | act {a : Action} {next : a.Answer → Job α} {t : List Occurrence} {j : Job α}
      (x : a.Answer) (rest : Goes (next x) t j) : Goes (.act a next) (⟨a, x⟩ :: t) j

/-- With the answers of a trace, the job ends with a result. -/
def Runs (j : Job α) (t : List Occurrence) (a : α) : Prop := j.Goes t (.done a)

theorem Goes.trans {j k l : Job α} {t u : List Occurrence} (first : j.Goes t k)
    (second : k.Goes u l) : j.Goes (t ++ u) l := by
  induction first with
  | here _ => exact second
  | act x _ ih => exact .act x (ih second)

@[simp] theorem runs_done {a b : α} {t : List Occurrence} :
    (done a).Runs t b ↔ t = [] ∧ a = b := by
  constructor
  · intro h
    cases h with
    | here => exact ⟨rfl, rfl⟩
  · rintro ⟨rfl, rfl⟩
    exact .here _

@[simp] theorem runs_act {a : Action} {next : a.Answer → Job α} {t : List Occurrence} {b : α} :
    (act a next).Runs t b ↔ ∃ x u, t = ⟨a, x⟩ :: u ∧ (next x).Runs u b := by
  constructor
  · intro h
    cases h with
    | act x rest => exact ⟨x, _, rfl, rest⟩
  · rintro ⟨x, u, rfl, h⟩
    exact .act x h

theorem Goes.bind {j k : Job α} {t : List Occurrence} (h : j.Goes t k) (f : α → Job β) :
    (j.bind f).Goes t (k.bind f) := by
  induction h with
  | here _ => exact .here _
  | act x _ ih => exact .act x ih

theorem runs_bind {j : Job α} {f : α → Job β} {t : List Occurrence} {b : β} :
    (j.bind f).Runs t b ↔ ∃ u a v, t = u ++ v ∧ j.Runs u a ∧ (f a).Runs v b := by
  constructor
  · intro h
    induction j generalizing t with
    | done a => exact ⟨[], a, t, rfl, by simp, h⟩
    | act a next ih =>
      obtain ⟨x, s, rfl, hs⟩ := runs_act.mp h
      obtain ⟨u, r, v, rfl, hu, hv⟩ := ih x hs
      exact ⟨⟨a, x⟩ :: u, r, v, rfl, .act x hu, hv⟩
  · rintro ⟨u, a, v, rfl, hu, hv⟩
    exact (hu.bind f).trans hv

@[simp] theorem pure_eq (a : α) : (pure a : Job α) = done a := rfl

@[simp] theorem bind_eq (j : Job α) (f : α → Job β) : j >>= f = j.bind f := rfl

/-- Answer a job to its end, each action in the light of the trace before it. -/
def follow (answer : List Occurrence → (a : Action) → a.Answer) :
    List Occurrence → Job α → List Occurrence × α
  | past, done a => (past, a)
  | past, act a next => follow answer (past ++ [⟨a, answer past a⟩]) (next (answer past a))

theorem follow_runs (answer : List Occurrence → (a : Action) → a.Answer)
    (past : List Occurrence) (j : Job α) :
    ∃ t, (j.follow answer past).1 = past ++ t ∧ j.Runs t (j.follow answer past).2 := by
  induction j generalizing past with
  | done a => exact ⟨[], by simp [follow], .here _⟩
  | act a next ih =>
    obtain ⟨t, ht, run⟩ := ih (answer past a) (past ++ [⟨a, answer past a⟩])
    exact ⟨⟨a, answer past a⟩ :: t, by simp [follow, ht], .act _ run⟩

/-- Whatever it is answered, the job takes only allowed actions and ends well. -/
def Within (allowed : Action → Prop) (good : α → Prop) : Job α → Prop
  | done a => good a
  | act a next => allowed a ∧ ∀ x, (next x).Within allowed good

theorem Within.bind {allowed : Action → Prop} {good : α → Prop} {fine : β → Prop}
    {j : Job α} {f : α → Job β} (h : j.Within allowed good)
    (sequel : ∀ a, good a → (f a).Within allowed fine) : (j.bind f).Within allowed fine := by
  induction j with
  | done a => exact sequel a h
  | act a next ih => exact ⟨h.1, fun x => ih x (h.2 x)⟩

theorem Within.mono {allowed permitted : Action → Prop} {good fine : α → Prop} {j : Job α}
    (h : j.Within allowed good) (wider : ∀ a, allowed a → permitted a)
    (weaker : ∀ a, good a → fine a) : j.Within permitted fine := by
  induction j with
  | done a => exact weaker a h
  | act a next ih => exact ⟨wider a h.1, fun x => ih x (h.2 x)⟩

/-- What a job has done was allowed, and what is left of it stays within its limits. -/
theorem Goes.within {allowed : Action → Prop} {good : α → Prop} {j k : Job α}
    {t : List Occurrence} (h : j.Goes t k) (limits : j.Within allowed good) :
    (∀ o ∈ t, allowed o.action) ∧ k.Within allowed good := by
  induction h with
  | here j => exact ⟨by simp, limits⟩
  | act x _ ih =>
    obtain ⟨past, rest⟩ := ih (limits.2 x)
    exact ⟨List.forall_mem_cons.mpr ⟨limits.1, past⟩, rest⟩

end Job

end NotebookKernel
