import TypedRoutes.Command.Run
import TypedRoutes.Proofs.Attempt
import TypedRoutes.Proofs.Command.Transcript
import TypedRoutes.Proofs.Config.Obstacles

/-!
# Configurations of command lines

A command line whose arguments are understood goes on with the settings that are read, or complains
of the fault of a setting and ends with exit code one. An obstacle to the configuration ends it
without a complaint, by a failure that is not handled.
-/
namespace TypedRoutes

namespace Transcript

variable {α β : Type} {first second third : Transcript α}

/-- Whether two transcripts have the same result and the same complaints. -/
def SameVerdict (first second : Transcript α) : Prop :=
  first.result = second.result ∧ first.complaints = second.complaints

theorem SameVerdict.trans (h : first.SameVerdict second) (hsecond : second.SameVerdict third) :
    first.SameVerdict third :=
  ⟨h.1.trans hsecond.1, h.2.trans hsecond.2⟩

/-- Records in front make no difference. -/
theorem sameVerdict_log_bind (level : LogLevel) (records : List LogRecord)
    (next : Unit → Transcript β) : (log level records >>= next).SameVerdict (next ()) :=
  ⟨(isCalm_log level records).result_bind, (isCalm_log level records).complaints_bind⟩

theorem orRefuse_error_bind (lead : String) (failure : Failure) (next : α → Transcript β) :
    (orRefuse lead (.error failure) >>= next) = orRefuse lead (.error failure) := by
  cases failure <;> rfl

theorem orRefuse_of_not_fault {failure : Failure} (h : failure.isFault = false) (lead : String) :
    (orRefuse lead (.error failure) : Transcript α) = stop (.failed failure) := by
  cases failure with
  | fault cause => cases h
  | _ => rfl

end Transcript

namespace Command

open Config (IsBlocked load settings)

variable {world : World} {arguments : List String} {invocation : Invocation}

/-- The sources of the settings that a command line is run with. -/
def sourcesOf (world : World) (options : GeneralOptions) : Config.Sources where
  patterns := (options.configFile.filter fun name => !name.isEmpty).toList
  environment := world.environment

/-- What the complaint about a configuration starts with. -/
def configurationLead : String := ActionContext.crossed ++ "Invalid configuration: "

/-- The complaint about the fault of a setting. -/
def complaintOf (fault : Fault) : String :=
  Style.apply { colour := some .red } (configurationLead ++ fault.text)

/-- Apart from the log, the settings are read as from the sources, and refused with a lead. -/
theorem sameVerdict_readSettings (world : World) (options : GeneralOptions) :
    (readSettings world options).SameVerdict
      (.orRefuse configurationLead (load world.files (sourcesOf world options) >>= settings)) := by
  refine (Transcript.sameVerdict_log_bind _ _ _).trans ?_
  change (Transcript.orRefuse _ (load world.files (sourcesOf world options)) >>= _).SameVerdict _
  cases load world.files (sourcesOf world options) with
  | error failure =>
    rw [Transcript.orRefuse_error_bind]
    exact ⟨rfl, rfl⟩
  | ok config =>
    rw [Transcript.orRefuse_ok, Transcript.pure_bind]
    exact Transcript.sameVerdict_log_bind _ _ _

theorem run_of_read (h : Invocation.read world.files arguments = .ok invocation) :
    ∃ next, run world arguments = readSettings world invocation.options >>= next := by
  unfold run
  rw [h]
  exact ⟨_, Transcript.pure_bind invocation _⟩

/-- Where the settings are not read, a command line ends as reading them does. -/
theorem run_of_result_eq_error {ending : Ending}
    (h : Invocation.read world.files arguments = .ok invocation)
    (hending : (readSettings world invocation.options).result = .error ending) :
    (run world arguments).result = .error ending ∧
      (run world arguments).complaints = (readSettings world invocation.options).complaints := by
  obtain ⟨next, hnext⟩ := run_of_read h
  rw [hnext, Transcript.bind_of_error hending]
  exact ⟨rfl, rfl⟩

/-- A fault is complained of. -/
theorem run_of_fault {fault : Fault}
    (h : Invocation.read world.files arguments = .ok invocation)
    (hfault : (load world.files (sourcesOf world invocation.options) >>= settings) =
      .error (.fault fault)) :
    (run world arguments).result = .error (.exit 1) ∧
      (run world arguments).complaints = [complaintOf fault] := by
  have hverdict := sameVerdict_readSettings world invocation.options
  rw [hfault] at hverdict
  obtain ⟨hresult, hcomplaints⟩ := run_of_result_eq_error h hverdict.1
  exact ⟨hresult, hcomplaints.trans hverdict.2⟩

/-- Any other failure is not handled. -/
theorem run_of_not_fault {failure : Failure} (hfailure : failure.isFault = false)
    (h : Invocation.read world.files arguments = .ok invocation)
    (herror : (load world.files (sourcesOf world invocation.options) >>= settings) =
      .error failure) :
    (run world arguments).result = .error (.failed failure) ∧
      (run world arguments).complaints = [] := by
  have hverdict := sameVerdict_readSettings world invocation.options
  rw [herror, Transcript.orRefuse_of_not_fault hfailure] at hverdict
  obtain ⟨hresult, hcomplaints⟩ := run_of_result_eq_error h hverdict.1
  exact ⟨hresult, hcomplaints.trans hverdict.2⟩

/-- A command line that checks a table, with a configuration file of the given content. -/
def checkingWith (content : String) : World where
  files := .ofFiles [("c.json", content), ("t.yaml", "routes: []\n")]
  environment := []

def checkArguments : List String :=
  ["-c", "c.json", "check", "-f", "t.yaml"]

end Command
end TypedRoutes
