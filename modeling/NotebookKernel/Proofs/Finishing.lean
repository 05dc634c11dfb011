import NotebookKernel.Proofs.Course
import NotebookKernel.Proofs.RequestLoops

/-!
# Requests come to their end

A loop that is in the middle of a request goes on with it in each turn of its strand, and is
done after sixteen turns, whatever else happens in between. The only thing it ever waits for
beside its turns is a flight, and a flight that is let go on lands. In the step in which it is
done the loop turns to the next request.
-/

namespace NotebookKernel

/-- A request that a loop has begun, and what was sent for it so far. -/
structure Begun where
  request : Request
  sent : List Emission

namespace Kernel

variable {σ : Type}

/-- Is the move a turn of the loop? It is none to wait for a flight that is still on its way. -/
def isTurnOf (k : Kernel σ) (c : RequestChannel) : Move σ → Bool
  | .go i => (k.strands[i]?).any fun s => s.loop = some c && k.isReady s
  | _ => false

/-- How many turns a loop takes in the course of a schedule. -/
def turnsTaken (k : Kernel σ) (c : RequestChannel) : List (Move σ) → Nat
  | [] => 0
  | m :: moves => (if k.isTurnOf c m then 1 else 0) + (k.move m).turnsTaken c moves

/-- What a loop that is done with a request turns to: it ends if it has to, and otherwise it
begins the first request that waits, if there is one. -/
def onward (k : Kernel σ) (c : RequestChannel) : List Event :=
  if k.stopping then [.closed c] else (k.lane c).queue.head?.toList.map (.begun c)

/-- With this move the loop is done with its request, and it turns to what comes next. -/
def Closes (k : Kernel σ) (c : RequestChannel) (b : Begun) (m : Move σ) : Prop :=
  ∃ v, Handled.Enveloped c ⟨b.request, b.sent, v⟩ ∧
    (k.move m).past c = k.past c ++ .served c b.request v :: k.onward c

/-- In the course of these moves the loop sends what is left to send for its request, and then
it is done with it. -/
def Concludes (k : Kernel σ) (c : RequestChannel) (b : Begun) (moves : List (Move σ)) : Prop :=
  ∃ early m late sent, moves = early ++ m :: late ∧
    (k.play early).past c = k.past c ++ sent.map (.sent (some c)) ∧
    (k.play early).Closes c ⟨b.request, b.sent ++ sent⟩ m

/-! ## A request in service -/

variable {k : Kernel σ} {c : RequestChannel} {b : Begun} {w : Work}

/-- The loop is in the middle of a request, with this work left. -/
structure Serving (k : Kernel σ) (c : RequestChannel) (b : Begun) (w : Work) : Prop where
  busy : (k.lane c).busy = true
  unended : (k.lane c).ended = false
  works : worksOf c k.strands = [w]
  serves : w.Serves c b.request b.sent

namespace Serving

theorem of_sends {j : Kernel σ} (h : k.Serving c b w) (same : k.Sends c [] j) :
    j.Serving c b w where
  busy := same.lane ▸ h.busy
  unended := same.lane ▸ h.unended
  works := same.works.trans h.works
  serves := h.serves

/-- The loop has a strand, and only one. -/
theorem strand (h : k.Serving c b w) :
    ∃ (i : Nat) (s : Strand), k.strands[i]? = some s ∧ s.loop = some c ∧ s.work = w := by
  have member : w ∈ worksOf c k.strands := by simp [h.works]
  obtain ⟨s, inside, own⟩ := List.mem_filterMap.mp member
  obtain ⟨i, found⟩ := List.getElem?_of_mem inside
  split at own
  · rename_i mine
    exact ⟨i, s, found, mine, Option.some.inj own⟩
  · cases own

theorem alone (h : k.Serving c b w) : (worksOf c k.strands).length ≤ 1 := by simp [h.works]

end Serving

/-- A loop that is in the middle of a request does not look for another one. -/
theorem feedLane_busy (busy : (k.lane c).busy = true) (d : RequestChannel) :
    k.Sends c [] (k.feedLane d) := by
  by_cases same : d = c
  · subst same
    simp only [Kernel.feedLane, busy, Bool.true_or, if_true]
    exact .refl k d
  · exact k.feedLane_other same

theorem Sends.trans {j i : Kernel σ} (first : k.Sends c [] j) (second : j.Sends c [] i) :
    k.Sends c [] i :=
  .still (second.lane.trans first.lane) (second.works.trans first.works) (by
    rw [second.past, first.past]
    simp)

theorem feed_busy (busy : (k.lane c).busy = true) : k.Sends c [] k.feed := by
  have first := feedLane_busy busy .control
  exact first.trans (feedLane_busy (first.lane ▸ busy) .shell)

/-- A loop that has become free turns to what comes next. -/
theorem feedLane_past {queue : List Request} (free : k.lane c = ⟨queue, false, false⟩) :
    (k.feedLane c).past c = k.past c ++ k.onward c := by
  have asked : (k.obedient && decide (0 < k.signals)) = k.stopping := rfl
  simp only [feedLane, onward, free, asked, Bool.or_false, Bool.false_eq_true, if_false]
  by_cases stop : k.stopping = true
  · simp [if_pos stop, Event.loop?]
  · rw [if_neg stop, if_neg stop]
    cases queue with
    | nil => simp
    | cons r rest => simp [Event.loop?]

/-- A loop that is done with a request leaves its verdict and turns to what comes next. -/
theorem release_past (unended : (k.lane c).ended = false) (r : Request) (v : Verdict) :
    (k.release c r v).past c = k.past c ++ .served c r v :: k.onward c := by
  let freed := (k.withLane c (k.lane c).release).note (.served c r v)
  have lane : freed.lane c = ⟨(k.lane c).queue, false, false⟩ := by
    simp [freed, Lane.release, unended]
  have past : freed.past c = k.past c ++ [.served c r v] := by simp [freed, Event.loop?]
  have onward : freed.onward c = k.onward c := by
    unfold Kernel.onward
    rw [lane, show freed.stopping = k.stopping by simp [freed, Kernel.stopping]]
  have looked : freed.feed.past c = freed.past c ++ freed.onward c := by
    cases c with
    | control =>
      rw [feed, (feedLane_other _ (by decide)).past, feedLane_past lane]
      simp
    | shell =>
      have first := freed.feedLane_other (c := .shell) (d := .control) (by decide)
      have stopping : (freed.feedLane .control).stopping = freed.stopping :=
        (feeds_feedLane freed .control).stopping
      rw [feed, feedLane_past (first.lane.trans lane), first.past, Kernel.onward, first.lane,
        stopping]
      simp [Kernel.onward]
  rw [show k.release c r v = freed.feed from rfl, looked, past, onward]
  simp

/-- Moves in which no strand goes on are nothing to a loop in the middle of a request, but that
more requests may wait for it. -/
theorem Serving.still (h : k.Serving c b w) {m : Move σ} (still : m.mover? = none) :
    (k.move m).Serving c b w ∧ (k.move m).past c = k.past c := by
  have same {j : Kernel σ} (sends : k.Sends c [] j) : j.Serving c b w ∧ j.past c = k.past c :=
    ⟨h.of_sends sends, by simp [sends.past]⟩
  cases m with
  | go i => cases still
  | look d => exact same (feedLane_busy h.busy d)
  | arrive d m =>
    simp only [move]
    split
    · unfold enqueue
      split
      · exact same (.refl k c)
      · by_cases here : d = c
        · subst here
          exact ⟨⟨by simp [h.busy], by simp [h.unended], by simp [h.works], h.serves⟩, by simp⟩
        · exact same (.still (by simp [here]) (by simp) (by simp))
    · exact same (.refl k c)
  | restart tag => exact same (.still (by cases c <;> rfl) (by simp [move, restart]) rfl)
  | stop tag => exact same (.still (by cases c <;> rfl) (by simp [move, stop]) rfl)
  | raise =>
    exact same (.still (by cases c <;> rfl) rfl (by simp [move, raise, past, Event.loop?]))
  | leave t =>
    simp only [move]
    split
    · exact same (.still (by cases c <;> rfl) rfl (by simp [raise, past, Event.loop?]))
    · exact same (.refl k c)
  | wait t | change tooling => exact same (.still (by cases c <;> rfl) rfl rfl)

/-- What a step of a strand among others leaves of the work of a loop. -/
theorem worksOf_move {i : Nat} {s : Strand} (found : k.strands[i]? = some s) :
    worksOf c (k.move (.go i)).strands = worksOf c (k.strands.take i) ++
      (if s.loop = some c then (k.stepped s).works else []) ++ worksOf c (k.strands.drop (i + 1)) ++
      worksOf c (k.stepped s).2.strands := by
  simp only [move, found, resume_strands, worksOf_append, worksOf_strand]

theorem worksOf_cut {i : Nat} {s : Strand} (found : k.strands[i]? = some s) :
    worksOf c k.strands = worksOf c (k.strands.take i) ++
      (if s.loop = some c then [s.work] else []) ++ worksOf c (k.strands.drop (i + 1)) := by
  obtain ⟨bound, same⟩ := List.getElem?_eq_some_iff.mp found
  conv_lhs => rw [← List.take_append_drop i k.strands, List.drop_eq_getElem_cons bound, same]
  simp

theorem move_lane {i : Nat} {s : Strand} (found : k.strands[i]? = some s) :
    (k.move (.go i)).lane c = (k.stepped s).2.lane c := by
  simp only [move, found, resume_lane]

theorem move_past {i : Nat} {s : Strand} (found : k.strands[i]? = some s) :
    (k.move (.go i)).past c = (k.stepped s).2.past c := by
  simp only [move, found, past, resume_journal]

namespace Serving

variable {i : Nat} {s : Strand}

/-- A turn of another strand is nothing to a loop in the middle of a request. -/
theorem foreign (h : k.Serving c b w) (orderly : k.Orderly) (found : k.strands[i]? = some s)
    (other : s.loop ≠ some c) :
    (k.move (.go i)).Serving c b w ∧ (k.move (.go i)).past c = k.past c := by
  have busy : (k.bare.lane c).busy = true := by simp [h.busy]
  have same : k.bare.Sends c [] (k.stepped s).2 := by
    obtain ⟨j, same, stepped | fed⟩ :=
      k.bare.proceed_foreign other (orderly s (List.mem_of_getElem? found))
    · exact stepped ▸ same
    · exact fed ▸ same.trans (feed_busy (same.lane ▸ busy))
  have sends : k.Sends c [] (k.move (.go i)) := by
    refine .still ?_ ?_ ?_
    · rw [move_lane found, same.lane, bare_lane]
    · rw [worksOf_move found, worksOf_cut found, same.works, if_neg other, if_neg other]
      simp
    · rw [move_past found, same.past]
      simp [past]
  exact ⟨h.of_sends sends, by simp [sends.past]⟩

theorem work_eq (h : k.Serving c b w) (found : k.strands[i]? = some s) (mine : s.loop = some c) :
    s.work = w := by
  have works := worksOf_eq h.alone found mine
  rw [h.works] at works
  exact (List.singleton_inj.mp works).symm

/-- The other strands have nothing of the work of the loop. -/
theorem elsewhere (h : k.Serving c b w) (found : k.strands[i]? = some s)
    (mine : s.loop = some c) :
    worksOf c (k.strands.take i) = [] ∧ worksOf c (k.strands.drop (i + 1)) = [] := by
  have few := h.alone
  rw [worksOf_cut found, if_pos mine] at few
  simp only [List.length_append, List.length_singleton] at few
  exact ⟨List.length_eq_zero_iff.mp (by omega), List.length_eq_zero_iff.mp (by omega)⟩

/-- A loop whose job is done closes its request in its next turn. -/
theorem closes {f : Finish} (h : k.Serving c b (.job (.done f))) (found : k.strands[i]? = some s)
    (mine : s.loop = some c) : k.Closes c b (.go i) := by
  have ends : f.Ends c b.request (b.sent ++ sentIn []) := h.serves [] f (.here _)
  rw [sentIn_nil, List.append_nil] at ends
  unfold Closes
  rw [move_past found, Kernel.stepped, mine, h.work_eq found mine]
  cases f with
  | shell q s' v =>
    obtain ⟨rfl, rfl, enveloped⟩ := ends
    have released := release_past (k := { k.bare with session := s' }) (c := .shell) h.unended
      b.request v
    exact ⟨v, enveloped, released⟩
  | control q v =>
    obtain ⟨rfl, rfl, enveloped⟩ := ends
    have released := release_past (k := k.bare) (c := .control) h.unended b.request v
    exact ⟨v, enveloped, released⟩
  | call tag result => exact ends.elim

/-- A turn of its own strand brings a loop nearer to the end of its request, unless the strand
waits for a flight that is still on its way. -/
theorem own (h : k.Serving c b w) (found : k.strands[i]? = some s) (mine : s.loop = some c) :
    k.Closes c b (.go i) ∨
      ∃ es next, (k.move (.go i)).Serving c ⟨b.request, b.sent ++ es⟩ next ∧
        (k.move (.go i)).past c = k.past c ++ es.map (.sent (some c)) ∧
        (k.isReady s = true → w.Goes es next) ∧ (k.isReady s = false → next = w) := by
  have work : s.work = w := h.work_eq found mine
  obtain ⟨before, after⟩ := h.elsewhere found mine
  have stepped : k.stepped s = k.bare.proceed (some c) w := by rw [Kernel.stepped, mine, work]
  rcases k.bare.proceed_own h.serves with ⟨f, rfl⟩ | ⟨wake, next, es, goes, sends, turn⟩
  · exact Or.inl (h.closes found mine)
  · refine Or.inr ⟨es, next, ⟨?_, ?_, ?_, ?_⟩, ?_, ?_, ?_⟩
    · rw [move_lane found, stepped, sends.lane, bare_lane, h.busy]
    · rw [move_lane found, stepped, sends.lane, bare_lane, h.unended]
    · rw [worksOf_move found, stepped, sends.works, before, after, if_pos mine]
      simp [Continuation.works, goes]
    · rcases turn with ⟨turn, _⟩ | ⟨_, rfl, rfl⟩
      · exact turn.serves h.serves
      · simpa using h.serves
    · rw [move_past found, stepped, sends.past]
      rfl
    · intro ready
      rcases turn with ⟨turn, _⟩ | ⟨⟨f, rest, waits, aloft⟩, _⟩
      · exact turn
      · have still : k.landing? f = none := aloft
        simp [isReady, work, waits, still] at ready
    · intro unready
      rcases turn with ⟨_, landed⟩ | ⟨_, same, _⟩
      · unfold isReady at unready
        split at unready
        · rename_i f rest waits
          have aloft : k.landing? f = none := by simpa using unready
          exact (landed f rest (work.symm.trans waits) aloft).elim
        · cases unready
      · exact same

/-- Whatever happens, a loop in the middle of a request is done with it, or it goes on with it in
each of its turns and stays where it is otherwise. -/
theorem step (h : k.Serving c b w) (orderly : k.Orderly) (m : Move σ) :
    k.Closes c b m ∨ ∃ es next, (k.move m).Serving c ⟨b.request, b.sent ++ es⟩ next ∧
      (k.move m).past c = k.past c ++ es.map (.sent (some c)) ∧
      (k.isTurnOf c m = true → w.Goes es next) ∧ (k.isTurnOf c m = false → next = w) := by
  have stays (kept : (k.move m).Serving c b w ∧ (k.move m).past c = k.past c)
      (none : k.isTurnOf c m = false) :
      k.Closes c b m ∨ ∃ es next, (k.move m).Serving c ⟨b.request, b.sent ++ es⟩ next ∧
        (k.move m).past c = k.past c ++ es.map (.sent (some c)) ∧
        (k.isTurnOf c m = true → w.Goes es next) ∧ (k.isTurnOf c m = false → next = w) := by
    refine Or.inr ⟨[], w, ?_, by simp [kept.2], by simp [none], fun _ => rfl⟩
    simpa using kept.1
  cases m with
  | go i =>
    cases found : k.strands[i]? with
    | none =>
      have same : k.move (.go i) = k := by simp [Kernel.move, found]
      exact stays (by rw [same]; exact ⟨h, rfl⟩) (by simp [isTurnOf, found])
    | some s =>
      by_cases mine : s.loop = some c
      · have turns : k.isTurnOf c (.go i) = k.isReady s := by simp [isTurnOf, found, mine]
        rcases h.own found mine with closes | ⟨es, next, serving, past, turn⟩
        · exact Or.inl closes
        · exact Or.inr ⟨es, next, serving, past, turns ▸ turn.1, turns ▸ turn.2⟩
      · exact stays (h.foreign orderly found mine) (by simp [isTurnOf, found, mine])
  | _ => exact stays (h.still rfl) rfl

end Serving

/-! ## The end of a request -/

/-- What is sent before the end may be told apart from the end. -/
theorem Concludes.after (first : List (Move σ)) {rest : List (Move σ)} (es : List Emission)
    (past : (k.play first).past c = k.past c ++ es.map (.sent (some c)))
    (h : (k.play first).Concludes c ⟨b.request, b.sent ++ es⟩ rest) :
    k.Concludes c b (first ++ rest) := by
  obtain ⟨early, m, late, sent, rfl, sends, closes⟩ := h
  refine ⟨first ++ early, m, late, es ++ sent, by simp, ?_, ?_⟩
  · rw [play_append, sends, past]
    simp
  · simpa using closes

namespace Serving

/-- A loop in the middle of a request is done with it in the course of a schedule, or it has fewer
turns left by each turn that it has taken. -/
theorem run (h : k.Serving c b w) (orderly : k.Orderly) {n : Nat} (takes : w.Takes n)
    (moves : List (Move σ)) :
    k.Concludes c b moves ∨ ∃ es next, (k.play moves).Serving c ⟨b.request, b.sent ++ es⟩ next ∧
      (k.play moves).past c = k.past c ++ es.map (.sent (some c)) ∧
      next.Takes (n - k.turnsTaken c moves) := by
  induction moves generalizing k b w n with
  | nil => exact Or.inr ⟨[], w, by simpa using h, by simp, by simpa [turnsTaken] using takes⟩
  | cons m rest ih =>
    rcases h.step orderly m with closes | ⟨es, next, serving, past, turn, other⟩
    · exact Or.inl ⟨[], m, rest, [], rfl, by simp, by simpa using closes⟩
    · have left : next.Takes (n - if k.isTurnOf c m then 1 else 0) := by
        cases turned : k.isTurnOf c m with
        | true => exact (turn turned).takes takes
        | false => exact (other turned).symm ▸ takes
      rcases ih serving (move_orderly orderly m) left with concludes | ⟨fs, last, later, sent, few⟩
      · exact Or.inl (Concludes.after [m] es past concludes)
      · refine Or.inr ⟨es ++ fs, last, by simpa using later, ?_, ?_⟩
        · rw [play_cons, sent, past]
          simp
        · rwa [turnsTaken, ← Nat.sub_sub]

/-- A loop that gets its turns is done with its request. -/
theorem concludes (h : k.Serving c b w) (orderly : k.Orderly) {n : Nat} (takes : w.Takes n)
    {moves : List (Move σ)} (enough : n ≤ k.turnsTaken c moves) : k.Concludes c b moves := by
  refine (h.run orderly takes moves).resolve_right fun ⟨_, _, _, _, left⟩ => ?_
  have positive := left.pos
  omega

/-- A flight lands if its strand goes on, and meanwhile nothing happens to a loop that waits. -/
theorem lets_land (h : k.Serving c b w) (proper : k.Proper) {f : FlightId} {p : FlightPhase}
    (flying : (f, p) ∈ k.traffic.flights) :
    ∃ goes : List (Move σ), (∀ m ∈ goes, m.mover? ≠ none) ∧ (k.play goes).Serving c b w ∧
      (k.play goes).past c = k.past c ∧ ∃ o, (f, o) ∈ (k.play goes).landings := by
  induction left : p.remaining using Nat.strong_induction_on generalizing k p with
  | _ n ih =>
    obtain ⟨i, s, found, nobody, landed | ⟨q, still, less⟩⟩ := proper.flight_goes flying
    · obtain ⟨serving, past⟩ := h.foreign proper.orderly found (by simp [nobody])
      exact ⟨[.go i], by simp [Move.mover?], serving, past, landed⟩
    · obtain ⟨serving, past⟩ := h.foreign proper.orderly found (by simp [nobody])
      obtain ⟨goes, movers, later, same, landed⟩ :=
        ih _ (left ▸ less) serving (proper.move _) still rfl
      exact ⟨.go i :: goes, by simpa [Move.mover?] using movers, later, same.trans past, landed⟩

/-- A loop in the middle of a request can always have a turn: if it waits for a flight, then once
the flight has landed. -/
theorem readies (h : k.Serving c b w) (proper : k.Proper) (joined : k.traffic.Joined) :
    ∃ goes : List (Move σ), (∀ m ∈ goes, m.mover? ≠ none) ∧ (k.play goes).Serving c b w ∧
      (k.play goes).past c = k.past c ∧ ∃ i, (k.play goes).isTurnOf c (.go i) = true := by
  obtain ⟨i, s, found, mine, work⟩ := h.strand
  cases ready : k.isReady s with
  | true => exact ⟨[], by simp, h, rfl, i, by simp [isTurnOf, found, mine, ready]⟩
  | false =>
    unfold isReady at ready
    split at ready
    · rename_i f next waits
      have others : ∀ g o, (g, o) ∈ k.landings → ¬g = f := by simpa [landing?] using ready
      have created : f < k.supervisor.flights := by
        refine joined f (Multiset.mem_coe.mpr (List.mem_filterMap.mpr
          ⟨s, List.mem_of_getElem? found, ?_⟩))
        rw [waits]
        rfl
      rcases proper.regular.flies_or_landed created with ⟨p, flying⟩ | ⟨o, landed⟩
      · obtain ⟨goes, movers, serving, past, o, landed⟩ := h.lets_land proper flying
        obtain ⟨j, t, found', mine', work'⟩ := serving.strand
        refine ⟨goes, movers, serving, past, j, ?_⟩
        have ready' : ((k.play goes).landing? f).isSome = true := by
          simpa [landing?] using ⟨o, landed⟩
        simp [isTurnOf, found', mine', isReady, work', ← work, waits, ready']
      · exact (others f o landed rfl).elim
    · cases ready

/-- There is always a way to the end of a request, on which only strands go on. -/
theorem can_conclude (h : k.Serving c b w) (proper : k.Proper) (joined : k.traffic.Joined)
    {n : Nat} (takes : w.Takes n) :
    ∃ goes : List (Move σ), (∀ m ∈ goes, m.mover? ≠ none) ∧ k.Concludes c b goes := by
  induction n generalizing k b w with
  | zero => exact absurd takes.pos (Nat.lt_irrefl 0)
  | succ n ih =>
    obtain ⟨goes, movers, serving, past, i, turned⟩ := h.readies proper joined
    have there : (k.play goes).Proper := proper.play goes
    have begins (rest : List (Move σ)) (others : ∀ m ∈ rest, m.mover? ≠ none)
        (rested : (k.play goes).Concludes c b rest) :
        ∃ goes : List (Move σ), (∀ m ∈ goes, m.mover? ≠ none) ∧ k.Concludes c b goes := by
      refine ⟨goes ++ rest, fun m hm => ?_, Concludes.after goes [] (by simpa using past)
        (by simpa using rested)⟩
      exact (List.mem_append.mp hm).elim (movers m) (others m)
    rcases serving.step there.orderly (.go i) with closes | ⟨es, next, serving', past', turn, _⟩
    · exact begins [.go i] (by simp [Move.mover?])
        ⟨[], .go i, [], [], rfl, by simp, by simpa using closes⟩
    · obtain ⟨rest, others, concludes⟩ := ih serving' (there.move _)
        (there.joined (proper.joined joined goes) [.go i]) ((turn turned).takes takes)
      refine begins (.go i :: rest) ?_ (Concludes.after [.go i] es past' concludes)
      simpa [Move.mover?] using others

end Serving

/-- The messages of a request loop that everyone gets. -/
def published (k : Kernel σ) (c : RequestChannel) : List Emission :=
  ((k.past c).filterMap Event.emission?).filter fun e => e.channel = .iopub

end Kernel

namespace Begun

def events (c : RequestChannel) (b : Begun) : List Event := progressOf c b.request b.sent

/-- The messages that everyone gets. -/
def published (b : Begun) : List Emission := b.sent.filter fun e => e.channel = .iopub

/-- What was sent is the beginning of what is sent for a request that is properly handled. -/
def Leads (c : RequestChannel) (b : Begun) : Prop :=
  ∃ h : Handled, h.Enveloped c ∧ h.request = b.request ∧ b.sent <+: h.sent

end Begun

namespace Handled

/-- The messages that everyone gets. -/
def published (h : Handled) : List Emission := h.sent.filter fun e => e.channel = .iopub

/-- Every message for a request has the header of the request as its parent. -/
theorem Enveloped.parent {c : RequestChannel} {h : Handled} (proper : h.Enveloped c) :
    ∀ e ∈ h.sent, ∀ stamp, (e.message stamp).parent = some h.request.header := by
  unfold Enveloped at proper
  intro e he stamp
  cases routed : Service.find? c h.request.msgType with
  | none =>
    simp only [routed] at proper
    rw [proper.1] at he
    cases he
  | some service =>
    simp only [routed] at proper
    obtain ⟨_, body, belong, same⟩ := proper
    rw [same] at he
    rcases List.mem_cons.mp he with rfl | he
    · rfl
    · rcases List.mem_append.mp he with he | he
      · have own := belong e he
        cases e with
        | reply d r p => rw [← own.2.1]; rfl
        | broadcast r p => rw [← own.1]; rfl
      · rw [List.mem_singleton.mp he]
        rfl

theorem published_of_events (c : RequestChannel) (handled : List Handled) :
    ((handled.flatMap (events c)).filterMap Event.emission?).filter
      (fun e => e.channel = .iopub) = handled.flatMap published := by
  induction handled with
  | nil => rfl
  | cons h rest ih =>
    rw [List.flatMap_cons, List.flatMap_cons, List.filterMap_append, List.filter_append, ih]
    simp [events, published, List.filterMap_append, Event.emission?]

end Handled

namespace Kernel

variable {σ : Type} {k : Kernel σ} {c : RequestChannel} {arrived : List Request}

/-- A loop that is free and has something to do does it as soon as it looks. -/
theorem feedLane_begins {r : Request} {rest : List Request}
    (waiting : k.lane c = ⟨r :: rest, false, false⟩) :
    (k.feedLane c).past c = k.past c ++ [if k.stopping then .closed c else .begun c r] := by
  rw [feedLane_past waiting, onward, waiting]
  split <;> rfl

/-- Both request loops, under every schedule. What a loop has done is one block for each
request, in the order of arrival, and possibly the beginning of one more; a block is nothing at
all if the request is not routed, and otherwise lies between busy and idle. Nothing is begun
after the kernel was asked to exit; as long as its loop has not ended no request is lost, and
the loop takes the next one. A request that was begun comes to its end once the strand of its loop
has had sixteen turns, whatever else happens in between, and there always is a way to this end. The
rest of its block is sent then, the handler has returned, and the loop turns to the next request. -/
theorem loops_envelope_requests (config : KernelConfig) (backend : Backend σ) (tooling : σ)
    (obedient : Bool) (moves : List (Move σ)) (c : RequestChannel) :
    let k := (new config backend tooling obedient).play moves
    ∃ (handled : List Handled) (current : Option Begun),
      (∀ h ∈ handled, h.Enveloped c) ∧ (∀ b ∈ current, b.Leads c) ∧
      (∀ h ∈ handled, ∀ e ∈ h.sent, ∀ stamp,
        (e.message stamp).parent = some h.request.header) ∧
      k.past c = handled.flatMap (Handled.events c) ++ current.toList.flatMap (Begun.events c) ++
        (if (k.lane c).ended then [.closed c] else []) ∧
      k.published c = handled.flatMap Handled.published ++
        current.toList.flatMap Begun.published ∧
      current.isSome = (k.lane c).busy ∧
      handled.map Handled.request ++ current.toList.map Begun.request <+: arrivals c moves ∧
      ((k.lane c).ended = false → handled.map Handled.request ++
        current.toList.map Begun.request ++ (k.lane c).queue = arrivals c moves) ∧
      (∀ r rest, k.lane c = ⟨r :: rest, false, false⟩ → (k.feedLane c).past c =
        k.past c ++ [if k.stopping then .closed c else .begun c r]) ∧
      (∀ e, .sent none e ∉ k.journal) ∧
      (obedient = true → ∀ before after, k.journal = before ++ .signalled :: after →
        ∀ r, .begun c r ∉ after) ∧
      (∀ b ∈ current,
        (∀ more, 16 ≤ k.turnsTaken c more → k.Concludes c b more) ∧
        ∃ goes : List (Move σ), (∀ m ∈ goes, m.mover? ≠ none) ∧ k.Concludes c b goes) := by
  intro k
  have loop : k.LoopIs c (arrivals c moves) [] := play_loop ..
  have heeds : k.Heeds := play_heeds ..
  have next : ∀ r rest, k.lane c = ⟨r :: rest, false, false⟩ → (k.feedLane c).past c =
      k.past c ++ [if k.stopping then .closed c else .begun c r] := fun _ _ => feedLane_begins
  have obeys : k.obedient = obedient :=
    play_obedient (new_orderly config backend tooling obedient) moves
  have after : obedient = true → ∀ before after, k.journal = before ++ .signalled :: after →
      ∀ r, .begun c r ∉ after :=
    fun asked before after cut => heeds.afterwards (obeys.trans asked) before after cut c
  have start : (new config backend tooling obedient).Proper := new_proper ..
  have reached : k.Proper := start.play moves
  have joined : k.traffic.Joined :=
    start.joined (by simp [Traffic.Joined, traffic, trafficOf, new]) moves
  unfold LoopIs at loop
  rw [published]
  rw [List.nil_append] at loop
  generalize lane : k.lane c = l, works : worksOf c k.strands = ws, past : k.past c = es,
    arrivals c moves = arrived at loop next ⊢
  cases loop with
  | free handled queue proper =>
    refine ⟨handled, none, proper, by simp, fun h member => (proper h member).parent, by simp, ?_,
      rfl, by simp, by simp, next, heeds.attributed, after, by simp⟩
    rw [Handled.published_of_events]
    simp
  | serving handled r sent w queue proper serves takes =>
    have leads : Begun.Leads c ⟨r, sent⟩ := serves.beginning
    have serving : k.Serving c ⟨r, sent⟩ w := ⟨by simp [lane], by simp [lane], works, serves⟩
    have ends : ∀ b ∈ some (⟨r, sent⟩ : Begun),
        (∀ more, 16 ≤ k.turnsTaken c more → k.Concludes c b more) ∧
        ∃ goes : List (Move σ), (∀ m ∈ goes, m.mover? ≠ none) ∧ k.Concludes c b goes := by
      rintro _ ⟨⟩
      exact ⟨fun more => serving.concludes reached.orderly takes,
        serving.can_conclude reached joined takes⟩
    refine ⟨handled, some ⟨r, sent⟩, proper, by simpa using leads,
      fun h member => (proper h member).parent, by simp [Begun.events], ?_, rfl, by simp,
      by simp, next, heeds.attributed, after, ends⟩
    rw [List.filterMap_append, List.filter_append, Handled.published_of_events]
    simp [Begun.published]
  | ended handled forgotten proper =>
    refine ⟨handled, none, proper, by simp, fun h member => (proper h member).parent, by simp, ?_,
      rfl, by simp, by simp, next, heeds.attributed, after, by simp⟩
    rw [List.filterMap_append, List.filter_append, Handled.published_of_events]
    simp [List.filterMap_cons, Event.emission?]

end Kernel

end NotebookKernel
