import HttpTemplate.Client.Completion
import HttpTemplate.Proofs.Entries

/-! The call that settles a request. What the calls that wait will leave behind is kept by a turn of
the loop, and a new call adds to it at the end, so that the first call for a request counts however
calls and turns alternate. -/

namespace HttpTemplate.Settling

open Completion Entries

def made? : Event → Option (Nat × Call)
  | .call request c => some (request, c)
  | .turn => none

def made (events : List Event) : List (Nat × Call) := events.filterMap made?

def callsFor (request : Nat) (events : List Event) : List Call := valuesOf request (made events)

def isTurn : Event → Bool
  | .call _ _ => false
  | .turn => true

def turns (events : List Event) : Nat := events.countP isTurn

/-- The error of the call can be handed to who waits. -/
def Raisable (c : Call) : Prop := ∀ e, c.error = .fault (.foreign e) → e.name ≠ "StopIteration"

inductive Settles (c : Call) (url : Value) : Except Fault Response → Prop
  | answer : c.error = .value .null →
      Settles c url ((Completion.response c.reply c.body url).mapError .misuse)
  | raised {f : Fault} : c.error = .fault f → Settles c url (.error f)
  | told {v : Value} : c.error = .value v → v ≠ .null →
      Settles c url (.error (.transport (.str v.text) .null .unknown))

section Calls

variable {s : Settled} {request : Nat} {c : Call} {calls : List (Nat × Call)}

def settleAll (s : Settled) (calls : List (Nat × Call)) : Settled :=
  calls.foldl (fun s e => s.settle e.1 e.2) s

lemma isRefused_iff : c.isRefused = true ↔ ¬ Raisable c := by
  rw [Call.isRefused.eq_def, Raisable]
  split
  · next e he => simp [he]
  · next hother => simpa using fun e he => (hother e he).elim

lemma settles_result (c : Call) (url : Value) : Settles c url (c.result url) := by
  rw [Call.result.eq_def]
  split
  · next h => exact .answer h
  · next f h => exact .raised h
  · next v hnull h => exact .told h hnull

lemma get?_settle (s : Settled) (request j : Nat) (c : Call) :
    get? request (s.settle j c) =
      (get? request s).or ((valuesOf request [(j, c)]).find? fun d => !d.isRefused) := by
  rw [Settled.settle]
  by_cases hj : j = request
  · subst hj
    rw [valuesOf_singleton_self]
    cases hc : c.isRefused with
    | true => simp [hc]
    | false => cases hget : get? j s <;> simp [hc, hget, get?_put]
  · rw [valuesOf_singleton_of_ne hj, List.find?_nil, Option.or_none]
    split
    · rfl
    · split
      · rfl
      · exact get?_put_of_ne (Ne.symm hj) c s

lemma get?_settleAll (s : Settled) (request : Nat) (calls : List (Nat × Call)) :
    get? request (settleAll s calls) =
      (get? request s).or ((valuesOf request calls).find? fun d => !d.isRefused) := by
  induction calls using List.reverseRecOn with
  | nil => simp [settleAll]
  | append_singleton calls e ih =>
    have hlast : settleAll s (calls ++ [e]) = (settleAll s calls).settle e.1 e.2 := by
      simp [settleAll]
    rw [hlast, get?_settle, ih, valuesOf_append, List.find?_append, Option.or_assoc]

end Calls

section Loops

variable {l : Loop} {request : Nat} {c : Call} {e : Event} {events more : List Event}

/-- What is settled once every call that waits has had its turn. -/
def drained (l : Loop) : Settled := settleAll l.settled l.waiting

lemma drained_step (l : Loop) (e : Event) :
    drained (l.step e) = settleAll (drained l) (made [e]) := by
  cases e with
  | call request c => simp [drained, Loop.step, settleAll, made, made?]
  | turn =>
    obtain ⟨waiting, settled⟩ := l
    cases waiting <;> rfl

lemma run_append (l : Loop) (events more : List Event) :
    l.run (events ++ more) = (l.run events).run more :=
  List.foldl_append

lemma drained_run (l : Loop) (events : List Event) :
    drained (l.run events) = settleAll (drained l) (made events) := by
  induction events using List.reverseRecOn with
  | nil => rfl
  | append_singleton events e ih =>
    have hmade : made (events ++ [e]) = made events ++ made [e] := List.filterMap_append
    have hlast : l.run (events ++ [e]) = (l.run events).step e := run_append l events [e]
    rw [hlast, drained_step, ih, hmade, settleAll, settleAll, settleAll, List.foldl_append]

lemma get?_drained_of_settled (h : get? request l.settled = some c) :
    get? request (drained l) = some c := by
  rw [drained, get?_settleAll, h, Option.some_or]

lemma settled_step (h : get? request l.settled = some c) (e : Event) :
    get? request (l.step e).settled = some c := by
  cases e with
  | call => exact h
  | turn =>
    obtain ⟨waiting, settled⟩ := l
    cases waiting with
    | nil => exact h
    | cons d waiting =>
      change get? request (settled.settle d.1 d.2) = some c
      rw [get?_settle, h, Option.some_or]

lemma settled_run (h : get? request l.settled = some c) (events : List Event) :
    get? request (l.run events).settled = some c := by
  induction events generalizing l with
  | nil => exact h
  | cons e events ih => exact ih (settled_step h e)

lemma settled_of_turns {first rest : List (Nat × Call)} (hwaiting : l.waiting = first ++ rest)
    (h : get? request (settleAll l.settled first) = some c) (hturns : first.length ≤ turns more) :
    get? request (l.run more).settled = some c := by
  induction more generalizing l first rest with
  | nil =>
    obtain rfl := List.eq_nil_of_length_eq_zero (Nat.le_zero.mp hturns)
    exact h
  | cons e more ih =>
    cases e with
    | call j d =>
      have hadded : (l.step (.call j d)).waiting = first ++ (rest ++ [(j, d)]) := by
        simp [Loop.step, hwaiting]
      exact ih hadded h hturns
    | turn =>
      cases first with
      | nil => exact settled_run h _
      | cons d first =>
        have hstep : l.step .turn = ⟨first ++ rest, l.settled.settle d.1 d.2⟩ := by
          rw [Loop.step, hwaiting]
          rfl
        have hfewer : first.length ≤ turns more := by
          simpa [turns, isTurn, List.countP_cons] using hturns
        exact ih (l := l.step .turn) (by rw [hstep]) (by rw [hstep]; exact h) hfewer

end Loops

section Requests

variable {events more : List Event} {request : Nat} {c : Call} {later : List Call} {url : Value}

lemma callsFor_append (request : Nat) (events more : List Event) :
    callsFor request (events ++ more) = callsFor request events ++ callsFor request more := by
  rw [callsFor, made, List.filterMap_append, valuesOf_append]
  rfl

lemma get?_drained (hcalls : callsFor request events = c :: later) (hraisable : Raisable c) :
    get? request (drained (Loop.run {} events)) = some c := by
  have hcounts : c.isRefused = false :=
    Bool.eq_false_iff.mpr fun h => isRefused_iff.mp h hraisable
  rw [drained_run, get?_settleAll, ← callsFor, hcalls]
  simp [drained, settleAll, hcounts]

lemma get?_settled (hcalls : callsFor request events = c :: later) (hraisable : Raisable c)
    {d : Call} (h : get? request (Loop.run {} (events ++ more)).settled = some d) : d = c := by
  have hall : callsFor request (events ++ more) = c :: (later ++ callsFor request more) := by
    rw [callsFor_append, hcalls, List.cons_append]
  exact Option.some.inj ((get?_drained_of_settled h).symm.trans (get?_drained hall hraisable))

lemma result_of_turns (hcalls : callsFor request events = c :: later) (hraisable : Raisable c)
    (hturns : (Loop.run {} events).waiting.length ≤ turns more) :
    (Loop.run {} (events ++ more)).result? request url = some (c.result url) := by
  have hsettled : get? request ((Loop.run {} events).run more).settled = some c :=
    settled_of_turns (List.append_nil _).symm (get?_drained hcalls hraisable) hturns
  rw [Loop.result?, run_append, hsettled, Option.map_some]

lemma length_waiting (l : Loop) (request : Nat) (calls : List Call) :
    (l.run (calls.map (.call request))).waiting.length = l.waiting.length + calls.length := by
  induction calls generalizing l with
  | nil => rfl
  | cons c calls ih =>
    have hstep : (l.step (.call request c)).waiting.length = l.waiting.length + 1 := by
      simp [Loop.step]
    have hrun : l.run ((c :: calls).map (.call request)) =
        (l.step (.call request c)).run (calls.map (.call request)) := rfl
    rw [hrun, ih, hstep, List.length_cons]
    omega

lemma settle_calls (hraisable : Raisable c) (later : List Call) (url : Value) :
    ({ calls := c :: later } : Completion).settle? url = some (c.result url) := by
  have hcalls : callsFor 0 ((c :: later).map (.call 0)) = c :: later := by
    simp [callsFor, made, made?, valuesOf, List.filterMap_map, Function.comp_def,
      List.filter_map]
  have hturns : turns ((c :: later).map fun _ => Event.turn) = (c :: later).length := by
    rw [turns, List.countP_eq_length.mpr (by simp [isTurn]), List.length_map]
  apply result_of_turns hcalls hraisable
  rw [length_waiting, hturns]
  exact Nat.le_of_eq (Nat.zero_add _)

end Requests

theorem settled_by_first_call (events : List Event) (request : Nat) (url : Value) {c : Call}
    {later : List Call} (hcalls : callsFor request events = c :: later) (hraisable : Raisable c) :
    ∃ result, Settles c url result ∧
      (∀ more r, (Loop.run {} (events ++ more)).result? request url = some r → r = result) ∧
      ∀ more, (Loop.run {} events).waiting.length ≤ turns more →
        (Loop.run {} (events ++ more)).result? request url = some result := by
  refine ⟨c.result url, settles_result c url, fun more r hr => ?_, fun more hturns =>
    result_of_turns hcalls hraisable hturns⟩
  obtain ⟨d, hd, rfl⟩ := Option.map_eq_some_iff.mp hr
  rw [get?_settled hcalls hraisable hd]

def greeted : Call where
  reply := .value (.map [(.str "status_code", .int 200)])
  body := .str "hi"

def refused : Call where
  error := .value (.str "refused")

def timedOut : Call where
  error := .fault (.foreign ⟨"TimeoutError", none⟩)

def crossing : List Event :=
  [.call 1 refused, .call 0 timedOut, .turn, .call 1 greeted, .call 0 greeted]

theorem crossing_settled_by_first_call :
    callsFor 0 crossing = [timedOut, greeted] ∧ callsFor 1 crossing = [refused, greeted] ∧
      (Loop.run {} (crossing ++ [.turn, .call 0 refused, .turn, .turn])).result? 0
        (.str "http://a.test/") = some (.error (.foreign ⟨"TimeoutError", none⟩)) ∧
      ∀ more r, (Loop.run {} (crossing ++ more)).result? 1 (.str "http://a.test/") = some r →
        r = .error (.transport (.str "refused") .null .unknown) := by
  have hzero : callsFor 0 crossing = [timedOut, greeted] := rfl
  have hone : callsFor 1 crossing = [refused, greeted] := rfl
  obtain ⟨result, hsettles, -, hturns⟩ := settled_by_first_call crossing 0 (.str "http://a.test/")
    hzero (by rintro e ⟨⟩; decide)
  obtain ⟨told, htold, hnever, -⟩ := settled_by_first_call crossing 1 (.str "http://a.test/")
    hone (by rintro e ⟨⟩)
  refine ⟨hzero, hone, ?_, fun more r hr => ?_⟩
  · rw [hturns _ (by decide)]
    cases hsettles with
    | raised h =>
      cases h
      rfl
    | answer h => cases h
    | told h => cases h
  · rw [hnever more r hr]
    cases htold with
    | told h =>
      cases h
      rfl
    | raised h => cases h
    | answer h => cases h

end HttpTemplate.Settling
