import Mathlib.Data.List.Induction
import NotebookKernel.Kernel.Timeline

/-!
# Schedules

The clock lets strands go on in one order. A schedule is any order whatever: each move
lets one strand go on, even if its answer is not yet due, or lets something happen from
outside. What holds for every schedule holds for every interleaving of request loops,
restarts and stops, and for every time that the tooling takes.
-/

namespace NotebookKernel

/-- One thing that can happen to a kernel. -/
inductive Move (σ : Type) where
  /-- A strand goes on by one step. -/
  | go (strand : Nat)
  /-- A request loop looks for something to do. -/
  | look (loop : RequestChannel)
  /-- A message arrives. It waits for the loop if it is a request. -/
  | arrive (channel : RequestChannel) (message : Message)
  | restart (tag : Nat)
  | stop (tag : Nat)
  | raise
  /-- An exit that was put off takes place. -/
  | leave (moment : Nat)
  | wait (moment : Nat)
  /-- The world in which the tooling lives changes. -/
  | change (tooling : σ)

/-- The request that waits for a loop after a move. -/
def Move.arrival? {σ : Type} (c : RequestChannel) : Move σ → Option Request
  | .arrive d m => if d = c then (Request.ofMessage m).toOption else none
  | _ => none

/-- The requests for a loop, in the order in which they arrive. -/
def arrivals {σ : Type} (c : RequestChannel) (moves : List (Move σ)) : List Request :=
  moves.filterMap (Move.arrival? c)

theorem arrivals_append {σ : Type} (c : RequestChannel) (first second : List (Move σ)) :
    arrivals c (first ++ second) = arrivals c first ++ arrivals c second := List.filterMap_append

namespace Kernel

variable {σ : Type}

def move (k : Kernel σ) : Move σ → Kernel σ
  | .go i =>
      match k.strands[i]? with
      | some s => k.resume (k.strands.take i) s (k.strands.drop (i + 1))
      | none => k
  | .look c => k.feedLane c
  | .arrive c m =>
      match Request.ofMessage m with
      | .ok r => k.enqueue c r
      | .error _ => k
  | .restart tag => k.restart tag
  | .stop tag => k.stop tag
  | .raise => k.raise
  | .leave t => if t ∈ k.exits then { k with exits := k.exits.erase t }.raise else k
  | .wait t => { k with now := max k.now t }
  | .change tooling => { k with tooling := tooling }

/-- Make moves, one after the other. -/
def play (k : Kernel σ) (moves : List (Move σ)) : Kernel σ := moves.foldl move k

@[simp] theorem play_nil (k : Kernel σ) : k.play [] = k := rfl

@[simp] theorem play_cons (k : Kernel σ) (m : Move σ) (moves : List (Move σ)) :
    k.play (m :: moves) = (k.move m).play moves := rfl

@[simp] theorem play_append (k : Kernel σ) (first second : List (Move σ)) :
    k.play (first ++ second) = (k.play first).play second :=
  List.foldl_append

/-- What holds at first and is kept by each move holds after every schedule. -/
theorem play_keeps {P : List (Move σ) → Kernel σ → Prop} (k : Kernel σ) (start : P [] k)
    (step : ∀ past m, P past (k.play past) → P (past ++ [m]) ((k.play past).move m))
    (moves : List (Move σ)) : P moves (k.play moves) := by
  induction moves using List.reverseRecOn with
  | nil => exact start
  | append_singleton past m ih =>
    rw [play_append]
    exact step past m ih

/-! ## The tooling -/

theorem withLane_backend (k : Kernel σ) (c : RequestChannel) (l : Lane) :
    (k.withLane c l).backend = k.backend := by cases c <;> rfl

theorem feedLane_backend (k : Kernel σ) (c : RequestChannel) :
    (k.feedLane c).backend = k.backend := by
  unfold feedLane
  split
  · rfl
  · split
    · exact withLane_backend k c _
    · split
      · rfl
      · exact withLane_backend k c _

theorem finish_backend (k : Kernel σ) (f : Finish) : (k.finish f).backend = k.backend := by
  have released (k : Kernel σ) (c : RequestChannel) (r : Request) (v : Verdict) :
      (k.release c r v).backend = k.backend := by
    unfold release feed
    rw [feedLane_backend, feedLane_backend]
    exact withLane_backend k c _
  cases f with
  | shell r s v => exact released _ .shell r v
  | control r v => exact released _ .control r v
  | call tag result => rfl

theorem takeTurn_backend {φ : Type} (k : Kernel σ) (turn : Turn φ) (work : φ → Work) :
    (k.takeTurn turn work (none, k)).2.backend = k.backend := by
  cases turn <;> rfl

theorem proceed_backend (k : Kernel σ) (loop : Option RequestChannel) (w : Work) :
    (k.proceed loop w).2.backend = k.backend := by
  cases w with
  | job j =>
    cases j with
    | done f => exact finish_backend k f
    | act a next =>
      cases a with
      | restart =>
        simp only [proceed, act, atOnce]
        split <;> rfl
      | _ => rfl
  | joined f next =>
    simp only [proceed]
    split <;> rfl
  | stopping p next =>
    simp only [proceed]
    split
    · rfl
    · exact takeTurn_backend k _ _
  | flying f p =>
    simp only [proceed]
    split
    · rfl
    · exact takeTurn_backend k _ _

/-- No schedule puts other tooling in the place of the tooling. -/
theorem play_backend (k : Kernel σ) (moves : List (Move σ)) :
    (k.play moves).backend = k.backend := by
  refine play_keeps (P := fun _ j => j.backend = k.backend) k rfl ?_ moves
  intro past m same
  refine Eq.trans ?_ same
  generalize k.play past = j
  cases m with
  | go i =>
    simp only [move]
    split
    · exact proceed_backend _ _ _
    · rfl
  | look c => exact feedLane_backend j c
  | arrive c m =>
    simp only [move]
    split
    · unfold enqueue
      split
      · rfl
      · exact withLane_backend j c _
    · rfl
  | leave t =>
    simp only [move]
    split <;> rfl
  | _ => rfl

/-! ## The clock plays a schedule -/

/-- The clock cuts the strands at the first that can go on. -/
theorem splitStrands_eq {k : Kernel σ} {strands before after : List Strand} {s : Strand}
    (h : k.splitStrands strands = some (before, s, after)) :
    strands = before ++ s :: after ∧ k.canGo s = true := by
  induction strands generalizing before with
  | nil => simp [splitStrands] at h
  | cons first rest ih =>
    rw [splitStrands] at h
    split at h
    · rename_i goes
      cases h
      exact ⟨rfl, goes⟩
    · obtain ⟨⟨b, t, a⟩, found, same⟩ := Option.map_eq_some_iff.mp h
      cases same
      obtain ⟨cut, goes⟩ := ih found
      exact ⟨by rw [cut]; rfl, goes⟩

/-- The strand that goes on between others is picked by its position. -/
theorem resume_eq_move {k : Kernel σ} {before after : List Strand} {s : Strand}
    (h : k.strands = before ++ s :: after) :
    k.resume before s after = k.move (.go before.length) := by
  simp [move, h]

theorem stepStrand_plays {k j : Kernel σ} (h : k.stepStrand = some j) :
    ∃ i s, k.strands[i]? = some s ∧ k.canGo s = true ∧ j = k.play [.go i] := by
  obtain ⟨⟨before, s, after⟩, found, rfl⟩ := Option.map_eq_some_iff.mp h
  obtain ⟨cut, goes⟩ := splitStrands_eq found
  exact ⟨before.length, s, by simp [cut], goes, resume_eq_move cut⟩

theorem stepExit_plays {k j : Kernel σ} (h : k.stepExit = some j) :
    ∃ t ∈ k.exits, j = k.play [.leave t, .look .control, .look .shell] := by
  obtain ⟨t, found, rfl⟩ := Option.map_eq_some_iff.mp h
  have due : t ∈ k.exits := List.mem_of_find?_eq_some found
  exact ⟨t, due, by simp [move, due, signal, feed]⟩

/-- The clock lets a strand go on that can, or an exit take place, or time pass. -/
theorem stepUntil_cases {k j : Kernel σ} {limit : Option Nat} (h : k.stepUntil limit = some j) :
    (∃ i s, k.strands[i]? = some s ∧ k.canGo s = true ∧ j = k.play [.go i]) ∨
      (∃ t ∈ k.exits, j = k.play [.leave t, .look .control, .look .shell]) ∨
      ∃ t, j = k.play [.wait t] := by
  unfold stepUntil stepNow at h
  cases strand : k.stepStrand with
  | some next =>
    simp only [strand, Option.orElse_eq_orElse, Option.orElse_some, Option.some.injEq] at h
    exact Or.inl (h ▸ stepStrand_plays strand)
  | none =>
    cases exit : k.stepExit with
    | some next =>
      simp only [strand, exit, Option.orElse_eq_orElse, Option.orElse_none,
        Option.some.injEq] at h
      exact Or.inr (Or.inl (h ▸ stepExit_plays exit))
    | none =>
      simp only [strand, exit, Option.orElse_eq_orElse, Option.orElse_none] at h
      obtain ⟨t, _, jumped⟩ := Option.bind_eq_some_iff.mp h
      split at jumped
      · cases jumped
      · cases jumped
        exact Or.inr (Or.inr ⟨t, rfl⟩)

/-- Every step of the clock is a schedule in which nothing arrives. -/
theorem stepUntil_plays {k j : Kernel σ} {limit : Option Nat} (h : k.stepUntil limit = some j) :
    ∃ moves, j = k.play moves ∧ ∀ c, arrivals c moves = [] := by
  rcases stepUntil_cases h with ⟨i, _, _, _, rfl⟩ | ⟨t, _, rfl⟩ | ⟨t, rfl⟩
  · exact ⟨_, rfl, fun _ => rfl⟩
  · exact ⟨_, rfl, fun _ => rfl⟩
  · exact ⟨_, rfl, fun _ => rfl⟩

/-- Whatever the clock does, a schedule in which nothing arrives does too. -/
theorem run_plays (limit : Option Nat) (wanted : Kernel σ → Bool) (fuel : Nat) (k : Kernel σ) :
    ∃ moves, run limit wanted fuel k = k.play moves ∧ ∀ c, arrivals c moves = [] := by
  induction fuel generalizing k with
  | zero => exact ⟨[], rfl, fun _ => rfl⟩
  | succ fuel ih =>
    rw [run]
    split
    · cases h : k.stepUntil limit with
      | none => exact ⟨[], rfl, fun _ => rfl⟩
      | some j =>
        obtain ⟨first, rfl, silent⟩ := stepUntil_plays h
        obtain ⟨second, played, silent'⟩ := ih (k.play first)
        refine ⟨first ++ second, by rw [play_append, ← played], fun c => ?_⟩
        rw [arrivals_append, silent, silent', List.append_nil]
    · exact ⟨[], rfl, fun _ => rfl⟩

theorem settle_plays (k : Kernel σ) :
    ∃ moves, k.settle = k.play moves ∧ ∀ c, arrivals c moves = [] := run_plays ..

theorem advance_plays (k : Kernel σ) (moment : Nat) :
    ∃ moves, k.advance moment = k.play moves ∧ ∀ c, arrivals c moves = [] := by
  obtain ⟨moves, h, silent⟩ := run_plays (some moment) (fun _ => true) k.fuel k
  refine ⟨moves ++ [.wait moment], by rw [play_append, ← h]; rfl, fun c => ?_⟩
  rw [arrivals_append, silent]
  rfl

end Kernel

end NotebookKernel
