import NotebookKernel.Proofs.Questions

/-!
# Details in HTML

What is known about a token is shown as plain text and as HTML. In the HTML the detail has no
bracket of its own, so it opens and closes nothing, and every ampersand in it begins the name of a
character. Putting the characters back for their names gives the detail again, so no two details
look alike, not even if one of them has names of characters in it from the start.
-/

namespace NotebookKernel

open Json Job

/-! ## Text in HTML -/

/-- The names of the characters that have a meaning in HTML, each up to its end. -/
def characterNames : List (List Char) := [['l', 't', ';'], ['g', 't', ';'], ['a', 'm', 'p', ';']]

/-- The text opens and closes no element, and its ampersands stand for characters only. -/
structure Inert (text : List Char) : Prop where
  unopened : '<' ∉ text
  unclosed : '>' ∉ text
  named : ∀ before after, text = before ++ '&' :: after → ∃ name ∈ characterNames, name <+: after

/-- Put characters back for their names, from left to right. -/
def unescapeHtml : List Char → List Char
  | [] => []
  | '&' :: 'l' :: 't' :: ';' :: rest => '<' :: unescapeHtml rest
  | '&' :: 'g' :: 't' :: ';' :: rest => '>' :: unescapeHtml rest
  | '&' :: 'a' :: 'm' :: 'p' :: ';' :: rest => '&' :: unescapeHtml rest
  | c :: rest => c :: unescapeHtml rest

namespace Inert

variable {text : List Char}

theorem nil : Inert [] where
  unopened := List.not_mem_nil
  unclosed := List.not_mem_nil
  named before after split := by simp at split

/-- A character that has no meaning leaves a text inert. -/
theorem cons (h : Inert text) {c : Char} (plain : c ≠ '<' ∧ c ≠ '>' ∧ c ≠ '&') :
    Inert (c :: text) := by
  obtain ⟨opening, closing, ampersand⟩ := plain
  refine ⟨by simp [opening.symm, h.unopened], by simp [closing.symm, h.unclosed], ?_⟩
  intro before after split
  cases before with
  | nil => exact absurd (List.cons.inj split).1 ampersand
  | cons d before => exact h.named before after (List.cons.inj split).2

/-- So does an ampersand if the text begins with the name of a character. -/
theorem ampersand (h : Inert text) (named : ∃ name ∈ characterNames, name <+: text) :
    Inert ('&' :: text) := by
  refine ⟨by simp [h.unopened], by simp [h.unclosed], ?_⟩
  intro before after split
  cases before with
  | nil =>
    obtain ⟨-, rfl⟩ := List.cons.inj split
    exact named
  | cons d before => exact h.named before after (List.cons.inj split).2

theorem append (h : Inert text) {before : List Char}
    (plain : ∀ c ∈ before, c ≠ '<' ∧ c ≠ '>' ∧ c ≠ '&') : Inert (before ++ text) := by
  induction before with
  | nil => exact h
  | cons c before ih =>
    have others := ih fun d member => plain d (List.mem_cons_of_mem _ member)
    exact others.cons (plain c List.mem_cons_self)

/-- A name without such characters makes the ampersand before it stand for one. -/
theorem entity (h : Inert text) (name : List Char) (known : name ∈ characterNames) :
    Inert ('&' :: (name ++ text)) := by
  have plain : ∀ name ∈ characterNames, ∀ c ∈ name, c ≠ '<' ∧ c ≠ '>' ∧ c ≠ '&' := by
    simp [characterNames]
  exact (h.append (plain name known)).ampersand ⟨name, known, List.prefix_append name text⟩

end Inert

namespace Session

theorem escapeHtml_inert (text : List Char) : Inert (escapeHtml text) := by
  fun_induction escapeHtml text with
  | case1 => exact .nil
  | case2 rest ih => exact ih.entity ['l', 't', ';'] (by decide)
  | case3 rest ih => exact ih.entity ['g', 't', ';'] (by decide)
  | case4 rest ih => exact ih.entity ['a', 'm', 'p', ';'] (by decide)
  | case5 c rest opening closing ampersand ih => exact ih.cons ⟨opening, closing, ampersand⟩

theorem unescapeHtml_escapeHtml (text : List Char) : unescapeHtml (escapeHtml text) = text := by
  fun_induction escapeHtml text with
  | case1 => rfl
  | case2 rest ih => rw [unescapeHtml, ih]
  | case3 rest ih => rw [unescapeHtml, ih]
  | case4 rest ih => rw [unescapeHtml, ih]
  | case5 c rest opening closing ampersand ih =>
    rw [unescapeHtml, ih]
    all_goals exact fun _ same => absurd same ampersand

/-- What a reply shows for a type of media. -/
def shown? (media : String) : InspectReply → Option Value
  | .ok _ data _ => data.get? media
  | .error _ => none

theorem inspection_text (detail : String) :
    shown? "text/plain" (inspection detail) = some (.string detail) := by
  simp [shown?, inspection, Dict.ofList, Dict.get?_insert]

theorem inspection_html (detail : String) : shown? "text/html" (inspection detail) =
    some (.string ("<pre>" ++ String.ofList (escapeHtml detail.toList) ++ "</pre>")) := by
  simp [shown?, inspection, Dict.ofList, Dict.get?_insert]

/-- No two details look alike. -/
theorem inspection_html_injective {detail detail' : String}
    (same : shown? "text/html" (inspection detail) = shown? "text/html" (inspection detail')) :
    detail = detail' := by
  rw [inspection_html, inspection_html] at same
  have pages := Value.string.inj (Option.some.inj same)
  have escaped : escapeHtml detail.toList = escapeHtml detail'.toList := by
    have texts := congrArg String.toList pages
    simpa using texts
  have back := congrArg unescapeHtml escaped
  rw [unescapeHtml_escapeHtml, unescapeHtml_escapeHtml] at back
  exact String.toList_inj.mp back

/-- A request about a token for which the tooling returns a detail is replied to once. The reply
shows the detail as it is, and between `<pre>` and `</pre>` an inert text from which it is got back.
Different details are shown in different HTML. -/
theorem inspection_lossless (s : Session) (r : Request) (code : String) (cursor : Nat)
    (level : Nat) (typed : r.msgType = "inspect_request")
    (content : r.content = .inspect code cursor level)
    (answer : List Occurrence → (a : Action) → a.Answer) :
    let t := ((s.process r).follow answer []).1
    (∀ c cell span detail, ⟨.call (.inspect c cell span), .value (some detail)⟩ ∈ t →
      repliesIn t = [.reply .shell r (.inspectReply (inspection detail))] ∧
      shown? "text/plain" (inspection detail) = some (.string detail) ∧
      ∃ e, shown? "text/html" (inspection detail) =
          some (.string ("<pre>" ++ String.ofList e ++ "</pre>")) ∧
        Inert e ∧ unescapeHtml e = detail.toList) ∧
    ∀ detail detail', detail ≠ detail' →
      shown? "text/html" (inspection detail) ≠ shown? "text/html" (inspection detail') := by
  intro t
  refine ⟨?_, fun detail detail' differ same => differ (inspection_html_injective same)⟩
  intro c cell span detail told
  refine ⟨?_, inspection_text detail, escapeHtml detail.toList, inspection_html detail,
    escapeHtml_inert _, unescapeHtml_escapeHtml _⟩
  obtain ⟨u, traced, run⟩ := (s.process r).follow_runs answer []
  have same : t = u := traced
  rw [same] at told ⊢
  have served : Service.find? .shell r.msgType = some .inspect := by
    rw [typed]
    rfl
  obtain ⟨_, _, _, unserved⟩ | ⟨g, service, w, routed, asked, rfl⟩ := process_runs run
  · rw [served] at unserved
    cases unserved
  obtain rfl : Service.inspect = service := Option.some.inj (served.symm.trans routed)
  simp only [serve, content] at asked
  have call : ⟨.call (.inspect c cell span), .value (some detail)⟩ ∈ callsIn w := by
    refine List.mem_filter.mpr ⟨?_, rfl⟩
    simpa using told
  obtain ⟨_, calls, _, _⟩ | ⟨_, y, _, calls, _, replied⟩ :=
    (inspect_asks r code cursor).runs asked
  · rw [calls] at call
    cases call
  · rw [calls, List.mem_singleton] at call
    cases call
    simp only [repliesIn, sentIn_generation, sentIn_emit, sentIn_append, replied]
    rfl

/-- Tooling that is running and knows one thing about every token. -/
def knowingTooling : List Occurrence → (a : Action) → a.Answer
  | _, .call (.inspect _ _ _) => .value (some "a < b, or a &lt; b")
  | past, a => crashingTooling past a

/-- A request about `foo`. -/
def inspecting : Request :=
  ⟨[], ⟨"1", "", "", "", "inspect_request", ""⟩, [], .inspect "foo" 3 0⟩

/-- A detail with a bracket and the name of a bracket is not shown like one with two brackets. -/
theorem inspection_lossless_nested :
    let detail := "a < b, or a &lt; b"
    let t := (((Session.new .standard).process inspecting).follow knowingTooling []).1
    (∃ c cell span, ⟨.call (.inspect c cell span), .value (some detail)⟩ ∈ t) ∧
      repliesIn t = [.reply .shell inspecting (.inspectReply (inspection detail))] ∧
      shown? "text/html" (inspection detail) =
        some (.string "<pre>a &lt; b, or a &amp;lt; b</pre>") ∧
      detail ≠ "a < b, or a < b" ∧
      shown? "text/html" (inspection detail) ≠
        shown? "text/html" (inspection "a < b, or a < b") := by
  intro detail t
  have told : ⟨.call (.inspect 1 _ _), .value (some detail)⟩ ∈ t :=
    .tail _ (.tail _ (.tail _ (.head _)))
  have other : detail ≠ "a < b, or a < b" := by decide
  have page : "<pre>" ++ String.ofList (escapeHtml detail.toList) ++ "</pre>" =
      "<pre>a &lt; b, or a &amp;lt; b</pre>" := by decide
  obtain ⟨shows, differ⟩ :=
    inspection_lossless (.new .standard) inspecting "foo" 3 0 rfl rfl knowingTooling
  exact ⟨⟨_, _, _, told⟩, (shows _ _ _ _ told).1, page ▸ inspection_html detail, other,
    differ _ _ other⟩

end Session

end NotebookKernel
