import Mathlib.Data.List.Basic
import TypedRoutes.Command.Transcript

/-!
# Transcripts in sequence

A transcript goes on where the one before it ended with a result, and its events come behind. The
complaints of a transcript are what it writes of its own on the standard error, beside the log.
-/
namespace TypedRoutes

/-- The message of an event that complains. -/
def Event.complaint? : Event → Option String
  | .error line => some line
  | _ => none

/-- The line that an event puts on the standard output. -/
def Event.output? : Event → Option String
  | .output line => some line
  | _ => none

namespace Transcript

variable {α β : Type} {first : Transcript α} {next : α → Transcript β} {x : α} {ending : Ending}

/-- The complaints of a transcript, in order. -/
def complaints (transcript : Transcript α) : List String :=
  transcript.events.filterMap Event.complaint?

/-- The lines of a transcript on the standard output, in order. -/
def outputs (transcript : Transcript α) : List String :=
  transcript.events.filterMap Event.output?

theorem bind_of_ok (h : first.result = .ok x) :
    first >>= next = ⟨first.events ++ (next x).events, (next x).result⟩ := by
  obtain ⟨events, result⟩ := first
  cases h
  rfl

theorem bind_of_error (h : first.result = .error ending) :
    first >>= next = ⟨first.events, .error ending⟩ := by
  obtain ⟨events, result⟩ := first
  cases h
  rfl

theorem pure_bind (x : α) (next : α → Transcript β) : pure x >>= next = next x :=
  bind_of_ok rfl

theorem orRefuse_ok (lead : String) (x : α) : orRefuse lead (.ok x) = pure x :=
  rfl

theorem forM_map (f : α → β) (xs : List α) (action : β → Transcript Unit) :
    (xs.map f).forM action = xs.forM fun x => action (f x) := by
  induction xs with
  | nil => rfl
  | cons x xs ih => exact congrArg (fun rest => action (f x) >>= fun _ => rest) ih

/-- Records in sequence are the records of both. -/
theorem log_bind_log (level : LogLevel) (records more : List LogRecord) (x : α) :
    (log level records >>= fun _ => log level more >>= fun _ => pure x) =
      ⟨((LogRecord.atLeast level (records ++ more)).map .record), .ok x⟩ := by
  rw [bind_of_ok rfl, bind_of_ok rfl]
  simp [log, LogRecord.atLeast, pure]

theorem exitCode_bind_of_ok (h : first.result = .ok x) :
    (first >>= next).exitCode = (next x).exitCode := by
  rw [bind_of_ok h]
  rfl

theorem exitCode_of_failed {failure : Failure} (h : first.result = .error (.failed failure)) :
    first.exitCode = 1 := by
  unfold exitCode
  rw [h]

/-! ## Complaints -/

/-- Whether a transcript has a result and complains of nothing. -/
def IsCalm (transcript : Transcript α) (x : α) : Prop :=
  transcript.result = .ok x ∧ transcript.complaints = []

theorem IsCalm.result_bind (h : first.IsCalm x) : (first >>= next).result = (next x).result := by
  rw [bind_of_ok h.1]

theorem complaints_bind (h : first.result = .ok x) :
    (first >>= next).complaints = first.complaints ++ (next x).complaints := by
  rw [bind_of_ok h, complaints, List.filterMap_append]
  rfl

theorem head?_complaints_bind {text : String} (h : first.complaints.head? = some text) :
    (first >>= next).complaints.head? = some text := by
  cases hresult : first.result with
  | ok x =>
    rw [complaints_bind hresult, List.head?_append, h]
    rfl
  | error ending =>
    rw [bind_of_error hresult]
    exact h

theorem IsCalm.complaints_bind (h : first.IsCalm x) :
    (first >>= next).complaints = (next x).complaints := by
  rw [Transcript.complaints_bind h.1, h.2, List.nil_append]

theorem IsCalm.bind {y : β} (h : first.IsCalm x) (hnext : (next x).IsCalm y) :
    (first >>= next).IsCalm y :=
  ⟨h.result_bind.trans hnext.1, h.complaints_bind.trans hnext.2⟩

theorem isCalm_pure (x : α) : (pure x : Transcript α).IsCalm x :=
  ⟨rfl, rfl⟩

theorem isCalm_line (text : String) : (line text).IsCalm () :=
  ⟨rfl, rfl⟩

theorem isCalm_log (level : LogLevel) (records : List LogRecord) : (log level records).IsCalm () := by
  refine ⟨rfl, ?_⟩
  rw [complaints, log, List.filterMap_map]
  exact List.filterMap_eq_nil_iff.mpr fun _ _ => rfl

theorem isCalm_forM {xs : List α} {action : α → Transcript Unit}
    (h : ∀ x ∈ xs, (action x).IsCalm ()) : (xs.forM action).IsCalm () := by
  induction xs with
  | nil => exact isCalm_pure ()
  | cons x xs ih =>
    obtain ⟨hx, hxs⟩ := List.forall_mem_cons.mp h
    exact hx.bind (ih hxs)

end Transcript
end TypedRoutes
