/-
# Which answers count

An answer is rejected by its status or by its body, and the status is looked at first.  A status counts
as an error from 400 to 599 and no other does, so an answer with any other status counts as soon as its
body can be read, one that only redirects included.

* `Authority.concluded_of_conclude`: **the three things that can come of an answer**;
* `Authority.Concluded.success_iff`: an answer counts exactly when its status is no error and its body
  can be read;
* `Authority.answer_of_conclude`: nothing but such an answer is a success.
-/
import WorkflowGate.Backend.Authority
import WorkflowGate.Proofs.Result

namespace WorkflowGate

open Result

namespace Authority

/-- A status is an error from 400 to 599. -/
theorem isErrorStatus_iff (status : Int) :
    isErrorStatus status = true ↔ 400 ≤ status ∧ status ≤ 599 := by
  simp [isErrorStatus]

/-- **What comes of an answer**: it is rejected by its status, or by its body, or it counts. -/
inductive Concluded (status : Int) (body : List UInt8) : Outcome → Prop
  | error : isErrorStatus status = true →
      Concluded status body { status := .rejected, detail := "HTTP " ++ Text.ofInt status }
  | unreadable {problem : UnreadableBody} : isErrorStatus status = false →
      BackendReply.ofBytes body = .ok (.error problem) →
        Concluded status body { status := .rejected, detail := "unreadable response body" }
  | success {reply : BackendReply} : isErrorStatus status = false →
      BackendReply.ofBytes body = .ok (.ok reply) →
        Concluded status body { status := .success, reported := reply.findings }

variable {a : Authority} {elapsed : Nat} {r : HttpRequest} {status : Int} {body : List UInt8}
  {outcome : Outcome} {entry : LogRecord}

theorem concluded_of_conclude (h : a.conclude elapsed r (.answer status body) = .ok (outcome, entry)) :
    Concluded status body outcome := by
  rw [conclude] at h
  split at h
  · cases h
  rw [concludeAnswer] at h
  cases hstatus : isErrorStatus status with
  | true =>
    rw [hstatus] at h
    cases h
    exact .error hstatus
  | false =>
    rw [hstatus] at h
    obtain ⟨read, hread, h⟩ := bind_eq_ok_iff.mp h
    cases read with
    | error problem =>
      cases h
      exact .unreadable hstatus hread
    | ok reply =>
      cases h
      exact .success hstatus hread

namespace Concluded

/-- **An answer counts exactly when its status is no error and its body can be read.** -/
theorem success_iff (h : Concluded status body outcome) :
    outcome.status = .success ↔
      ¬ (400 ≤ status ∧ status ≤ 599) ∧ ∃ reply, BackendReply.ofBytes body = .ok (.ok reply) := by
  rw [← isErrorStatus_iff]
  cases h with
  | error hstatus => simp [hstatus]
  | unreadable hstatus hread => simp [hread]
  | success hstatus hread => simp [hstatus, hread]

/-- It is rejected exactly when its status is an error or its body cannot be read. -/
theorem rejected_iff (h : Concluded status body outcome) :
    outcome.status = .rejected ↔
      (400 ≤ status ∧ status ≤ 599) ∨ ∃ problem, BackendReply.ofBytes body = .ok (.error problem) := by
  rw [← isErrorStatus_iff]
  cases h with
  | error hstatus => simp [hstatus]
  | unreadable hstatus hread => simp [hread]
  | success hstatus hread => simp [hstatus, hread]

/-- What is reported is what the answer says. -/
theorem reported_of_success (h : Concluded status body outcome)
    (hsuccess : outcome.status = .success) :
    ∃ reply, BackendReply.ofBytes body = .ok (.ok reply) ∧ outcome.reported = reply.findings := by
  cases h with
  | error _ | unreadable _ _ => cases hsuccess
  | success _ hread => exact ⟨_, hread, rfl⟩

end Concluded

/-- When the time is over, nothing else comes of the question. -/
theorem status_of_timedOut {fault : WaitFault}
    (h : a.timedOut elapsed fault = .ok (outcome, entry)) : outcome.status = .timeout := by
  obtain ⟨limit, -, h⟩ := bind_eq_ok_iff.mp h
  cases h
  rfl

/-- **Asking succeeds only by an answer**, whose status is no error and whose body can be read. -/
theorem answer_of_conclude {d : Delivery} (h : a.conclude elapsed r d = .ok (outcome, entry))
    (hsuccess : outcome.status = .success) :
    ∃ status body reply, d = .answer status body ∧ isErrorStatus status = false ∧
      BackendReply.ofBytes body = .ok (.ok reply) ∧ outcome.reported = reply.findings := by
  cases d with
  | answer status body =>
    have hconcluded := concluded_of_conclude h
    obtain ⟨reply, hread, hreported⟩ := hconcluded.reported_of_success hsuccess
    have hstatus := (hconcluded.success_iff.mp hsuccess).1
    rw [← isErrorStatus_iff] at hstatus
    exact ⟨status, body, reply, rfl, Bool.eq_false_iff.mpr hstatus, hread, hreported⟩
  | silence | late _ =>
    rw [status_of_timedOut h] at hsuccess
    cases hsuccess
  | failure _ _ =>
    cases h
    cases hsuccess
  | refusal _ => cases h

end Authority

end WorkflowGate
