import HttpTemplate.Session
import Mathlib.Tactic.Lemma

/-! Steps of a session that leave no trace. Listing, building and calling never change the session,
and neither does making a template or setting a part of it when that fails. A run without such steps
is the run with them, less their reports. -/

namespace HttpTemplate.Sessions

open Session

def reads : Step → Bool
  | .info | .build _ | .invoke _ _ | .gather _ | .call _ _ => true
  | _ => false

def writes : Step → Bool
  | .make _ _ | .headers _ | .query _ | .body _ | .attach _ => true
  | _ => false

def failed (r : StepReport) : Bool :=
  match r.result with
  | .fault _ => true
  | _ => false

def idle (e : Step × StepReport) : Bool := reads e.1 || (writes e.1 && failed e.2)

/-- A list of steps with their reports, and what is left of it when idle ones are deleted. -/
inductive Thinned : List (Step × StepReport) → List (Step × StepReport) → Prop
  | nil : Thinned [] []
  | keep {e : Step × StepReport} {full kept : List (Step × StepReport)} :
      Thinned full kept → Thinned (e :: full) (e :: kept)
  | drop {e : Step × StepReport} {full kept : List (Step × StepReport)} :
      idle e = true → Thinned full kept → Thinned (e :: full) kept

def after [Idna] (s : Session) (steps : List Step) : Session :=
  steps.foldl (fun s a => (s.step a).1) s

section Steps

variable {s : Session} {t : Template} {a : Step}

lemma attempt_failed {update : Session → Template → Session} {report : Template → StepResult}
    {made : Except Fault Template} (hreport : ∀ t, failed { result := report t } = false)
    (h : failed (s.attempt update report made).2 = true) :
    (s.attempt update report made).1 = s := by
  cases made with
  | ok t => exact absurd ((hreport t).symm.trans h) Bool.false_ne_true
  | error f => rfl

lemma stepWith_of_reads [Idna] (h : reads a = true) : (s.stepWith t a).1 = s := by
  cases a with
  | info => rfl
  | build arguments => rfl
  | invoke arguments delivery => rfl
  | gather calls => rfl
  | call values delivery => rfl
  | _ => cases h

lemma stepWith_of_failed [Idna] (h : writes a = true) (hf : failed (s.stepWith t a).2 = true) :
    (s.stepWith t a).1 = s := by
  cases a with
  | make method url => exact attempt_failed (fun _ => rfl) hf
  | headers v => exact attempt_failed (fun _ => rfl) hf
  | query v => exact attempt_failed (fun _ => rfl) hf
  | body v => exact attempt_failed (fun _ => rfl) hf
  | attach b => exact attempt_failed (fun _ => rfl) hf
  | _ => cases h

lemma idle_iff {r : StepReport} :
    idle (a, r) = true ↔ reads a = true ∨ writes a = true ∧ failed r = true := by
  simp [idle]

lemma step_of_idle [Idna] (h : idle (a, (s.step a).2) = true) : (s.step a).1 = s := by
  cases ht : s.template with
  | some t =>
    have hstep : s.step a = s.stepWith t a := by simp only [step, ht]
    rw [hstep] at h ⊢
    rcases idle_iff.mp h with hreads | ⟨hwrites, hfailed⟩
    · exact stepWith_of_reads hreads
    · exact stepWith_of_failed hwrites hfailed
  | none =>
    -- without a template all steps but one are skipped
    cases a with
    | make method url =>
      have hstep : s.step (.make method url) =
          s.attempt become .info (Template.make s.settings method url) := by
        simp only [step, ht]
      rw [hstep] at h ⊢
      exact attempt_failed (fun _ => rfl) ((idle_iff.mp h).resolve_left Bool.false_ne_true).2
    | _ => simp only [step, ht]

end Steps

section Runs

lemma run_of_thinned [Idna] {s : Session} {steps : List Step} {kept : List (Step × StepReport)}
    (h : Thinned (steps.zip (s.run steps)) kept) :
    s.run (kept.map Prod.fst) = kept.map Prod.snd ∧
      after s (kept.map Prod.fst) = after s steps := by
  induction steps generalizing s kept with
  | nil =>
    cases h
    exact ⟨rfl, rfl⟩
  | cons a steps ih =>
    rw [run, List.zip_cons_cons] at h
    cases h with
    | keep h =>
      obtain ⟨hrun, hafter⟩ := ih h
      exact ⟨congrArg ((s.step a).2 :: ·) hrun, hafter⟩
    | drop hidle h =>
      obtain ⟨hrun, hafter⟩ := ih h
      rw [step_of_idle hidle] at hrun hafter
      refine ⟨hrun, hafter.trans ?_⟩
      rw [after, after, List.foldl_cons, step_of_idle hidle]

end Runs

theorem idle_steps_removable [Idna] (s : Session) :
    (∀ a, idle (a, (s.step a).2) = true → (s.step a).1 = s) ∧
    ∀ steps kept, Thinned (steps.zip (s.run steps)) kept →
      s.run (kept.map Prod.fst) = kept.map Prod.snd ∧
        after s (kept.map Prod.fst) = after s steps :=
  ⟨fun _ => step_of_idle, fun _ _ => run_of_thinned⟩

def echoing : Session where
  client := some (.other (fun r => .ok { ok := .bool true, status := .int 200, text := r.url }) true)
  settings := { timeout := .int 10 }

def mixed : List Step := [
  .make (.str "get") (.str "http://a.test/{!id}"), .headers (.int 1), .body (.str "{x}"),
  .invoke (.map [(.str "id", .int 7)]) .awaited, .make .null .null, .build (.map [])]

open scoped Idna in
theorem idle_steps_removable_mixed :
    let full := mixed.zip (echoing.run mixed)
    let kept := ((full.eraseIdx 4).eraseIdx 3).eraseIdx 1
    Thinned full kept ∧
      echoing.run (kept.map Prod.fst) = kept.map Prod.snd ∧
        after echoing (kept.map Prod.fst) = after echoing mixed := by
  intro full kept
  have hthinned : Thinned full kept :=
    .keep (.drop (by decide +kernel) (.keep (.drop rfl (.drop (by decide +kernel) (.keep .nil)))))
  exact ⟨hthinned, (idle_steps_removable echoing).2 mixed kept hthinned⟩

end HttpTemplate.Sessions
