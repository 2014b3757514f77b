import PromptBook.Proofs.Engine.Messages

/-!
# Handing on an answer piece by piece

Three things can end an answer that comes piece by piece: it comes to its own end, whoever takes the
pieces fails, or the exchange is cancelled.  A piece is the last one that is handed on if it is the
first on which its taker fails or cancels; the failure then comes before the cancellation.

**Results.**
* `deliver_of_no_stop`, `deliver_of_first_stop`: what is handed on from any number on.
* `executeStreaming_delivers`: a whole execution.
-/

namespace PromptBook

namespace Reaction

/-- Whether nothing is handed on after a reaction. -/
def stops (r : Reaction) : Bool :=
  r.cancels || r.failure.isSome

/-- How an execution ends at a reaction that stops it. -/
def error (template : String) (r : Reaction) : ExecutionError :=
  match r.failure with
  | some why => .handler template why
  | none => .cancelled template

end Reaction

/-- How an execution ends with its answer. -/
def Ending.result (template model : String) : Ending → Except ExecutionError Unit
  | .finished => .ok ()
  | .failure error => .error (.backend template model error)
  | .stalled => .error (.cancelled template)

namespace Engine

section Steps

variable {handler : Handler} {template model : String} {ending : Ending} {number : Nat}
variable {chunk : Chunk} {rest : List Chunk}

@[simp] theorem deliver_nil :
    deliver handler template model ending number [] = ([], ending.result template model) := by
  cases ending <;> rfl

theorem deliver_cons_of_stops (h : (handler number chunk).stops = true) :
    deliver handler template model ending number (chunk :: rest) =
      ([chunk], .error ((handler number chunk).error template)) := by
  rw [deliver]
  cases hr : handler number chunk with
  | mk cancels failure =>
      cases failure with
      | some why =>
          rfl
      | none =>
          cases cancels with
          | true =>
              rfl
          | false =>
              simp [hr, Reaction.stops] at h

theorem deliver_cons_of_goes_on (h : (handler number chunk).stops = false) :
    deliver handler template model ending number (chunk :: rest) =
      (chunk :: (deliver handler template model ending (number + 1) rest).1,
        (deliver handler template model ending (number + 1) rest).2) := by
  rw [deliver]
  obtain ⟨hcancels, hfailure⟩ : (handler number chunk).cancels = false ∧
      (handler number chunk).failure = none := by
    simpa [Reaction.stops] using h
  split <;> simp_all

end Steps

section Runs

variable {handler : Handler} {template model : String} {ending : Ending} {number : Nat}
variable {chunks : List Chunk}

/-- Where nobody fails or cancels, the delivery goes on with the rest. -/
theorem deliver_append {before rest : List Chunk}
    (hgoes : ∀ i (h : i < before.length), (handler (number + i) before[i]).stops = false) :
    deliver handler template model ending number (before ++ rest) =
      (before ++ (deliver handler template model ending (number + before.length) rest).1,
        (deliver handler template model ending (number + before.length) rest).2) := by
  induction before generalizing number with
  | nil =>
      rfl
  | cons chunk before ih =>
      have hhead : (handler number chunk).stops = false := hgoes 0 (Nat.zero_lt_succ _)
      have hsame : ∀ i, number + 1 + i = number + (i + 1) := by
        omega
      have htail := ih fun i hi => by
        rw [hsame]
        exact hgoes (i + 1) (Nat.succ_lt_succ hi)
      rw [List.cons_append, deliver_cons_of_goes_on hhead, htail, hsame]
      rfl

theorem deliver_of_no_stop
    (hgoes : ∀ i (h : i < chunks.length), (handler (number + i) chunks[i]).stops = false) :
    deliver handler template model ending number chunks =
      (chunks, ending.result template model) := by
  calc deliver handler template model ending number chunks
    _ = deliver handler template model ending number (chunks ++ []) := by
      rw [List.append_nil]
    _ = (chunks, ending.result template model) := by
      rw [deliver_append hgoes, deliver_nil, List.append_nil]

/-- The first piece on which its taker fails or cancels is the last one. -/
theorem deliver_of_first_stop {m : Nat} (hm : m < chunks.length)
    (hgoes : ∀ i (h : i < m), (handler (number + i) chunks[i]).stops = false)
    (hstops : (handler (number + m) chunks[m]).stops = true) :
    deliver handler template model ending number chunks =
      (chunks.take (m + 1), .error ((handler (number + m) chunks[m]).error template)) := by
  have hlength : (chunks.take m).length = m := List.length_take_of_le (Nat.le_of_lt hm)
  have hbefore : ∀ i (h : i < (chunks.take m).length),
      (handler (number + i) (chunks.take m)[i]).stops = false := by
    intro i hi
    rw [List.getElem_take]
    exact hgoes i (hlength ▸ hi)
  calc deliver handler template model ending number chunks
    _ = deliver handler template model ending number
          (chunks.take m ++ chunks[m] :: chunks.drop (m + 1)) := by
      rw [← List.drop_eq_getElem_cons hm, List.take_append_drop]
    _ = (chunks.take m ++ [chunks[m]],
          .error ((handler (number + m) chunks[m]).error template)) := by
      rw [deliver_append hbefore, hlength, deliver_cons_of_stops hstops]
    _ = (chunks.take (m + 1), .error ((handler (number + m) chunks[m]).error template)) := by
      rw [List.take_succ_eq_append_getElem hm]

end Runs

section Executions

variable {e : Engine} {now : Timestamp} {t : Template} {values : Values} {o : Options} {r : Request}
variable {chunks : List Chunk} {ending : Ending}

theorem executeStreaming_of_answer (hprepare : e.prepare now t values o true = .ok r)
    (hanswer : e.backend.stream r = .answer ⟨chunks, ending⟩) (handler : Handler) :
    e.executeStreaming now false t values o handler =
      ⟨[r], (deliver handler t.name r.model ending 1 chunks).1,
        (deliver handler t.name r.model ending 1 chunks).2⟩ := by
  simp [executeStreaming, hprepare, hanswer]

/--
A request that can be prepared is sent once.  If no piece of the answer makes its taker fail or
cancel, all of them are handed on, and the execution ends as the answer does.  Otherwise the first
such piece is the last that is handed on, and the execution ends with the failure, or with the
cancellation if the taker did not fail.

A taker that remembers what it was given is no exception: the number of a piece tells all that came
before it.
-/
theorem executeStreaming_delivers (hprepare : e.prepare now t values o true = .ok r)
    (hanswer : e.backend.stream r = .answer ⟨chunks, ending⟩) (handler : Handler) :
    let x := e.executeStreaming now false t values o handler
    x.sent = [r] ∧
      ((∀ i (h : i < chunks.length), (handler (1 + i) chunks[i]).stops = false) →
        x.delivered = chunks ∧ x.result = ending.result t.name r.model) ∧
      (∀ m (hm : m < chunks.length),
        (∀ i (h : i < m), (handler (1 + i) chunks[i]).stops = false) →
        (handler (1 + m) chunks[m]).stops = true →
          x.delivered = chunks.take (m + 1) ∧
            x.result = .error ((handler (1 + m) chunks[m]).error t.name)) := by
  rw [executeStreaming_of_answer hprepare hanswer handler]
  refine ⟨rfl, ?_, ?_⟩
  · intro hgoes
    rw [deliver_of_no_stop hgoes]
    exact ⟨rfl, rfl⟩
  · intro m hm hgoes hstops
    rw [deliver_of_first_stop hm hgoes hstops]
    exact ⟨rfl, rfl⟩

end Executions

section Reading

/-- A template of one line. -/
def question : Template :=
  .ofParts "question" [.user "Well?"] (some "m")

/-- An answer in three pieces, the first of which says already that it is the last. -/
def longAnswer : List Chunk :=
  [.ofText "I" true, .ofText " am" false, .ofText " well." true]

/-- An engine whose backend gives the long answer. -/
def slowEngine : Engine :=
  ⟨.streaming ⟨longAnswer, .finished⟩, true, none⟩

/-- Cancels on the second piece of an answer, and on the third one fails too. -/
def impatient : Handler
  | 2, _ => ⟨true, none⟩
  | 3, _ => ⟨true, some "too long"⟩
  | _, _ => ⟨false, none⟩

theorem executeStreaming_impatient :
    ∃ r, slowEngine.prepare .epoch question [] ⟨none, .empty⟩ true = .ok r ∧
      slowEngine.backend.stream r = .answer ⟨longAnswer, .finished⟩ ∧
      let x := slowEngine.executeStreaming .epoch false question [] ⟨none, .empty⟩ impatient
      x.delivered = [.ofText "I" true, .ofText " am" false] ∧
        x.result = .error (.cancelled "question") := by
  have hsaid : utterances question [] = [(.user, .text "Well?")] := by
    cbv
  have hbuilt : slowEngine.prepare .epoch question [] ⟨none, .empty⟩ true =
      slowEngine.buildRequest .epoch question [] ⟨none, .empty⟩ true := rfl
  have hprepare : slowEngine.prepare .epoch question [] ⟨none, .empty⟩ true =
      .ok ⟨"m", [⟨.user, [.text "Well?"]⟩], .empty, ⟨"question", "1.0.0", .epoch, true⟩⟩ := by
    rw [hbuilt, buildRequest, hsaid]
    rfl
  obtain ⟨_, _, hstop⟩ := executeStreaming_delivers hprepare rfl impatient
  refine ⟨_, hprepare, rfl, hstop 1 (by decide) ?_ rfl⟩
  decide

end Reading

end Engine
end PromptBook
