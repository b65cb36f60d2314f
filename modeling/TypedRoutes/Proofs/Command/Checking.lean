import TypedRoutes.Command.Actions
import TypedRoutes.Proofs.Command.Transcript
import TypedRoutes.Proofs.Routing.Loading

/-!
# Checking route tables

Checking tries every entry of a table and complains of those that are refused. The entries that it
does not complain of load on their own, each of the others is refused behind those before it, and
nothing is complained of exactly if the table loads. Only a number that is too long to be shown
ends checking before its time.
-/
namespace TypedRoutes

/-- The entries of a table that has a list of them. -/
def RouteTable.listed? (table : Entries) : Option (List Value) :=
  match table.get? "routes" with
  | some (.list entries) => some entries
  | _ => none

theorem RouteTable.listed?_eq_some_iff {table : Entries} {entries : List Value} :
    listed? table = some entries ↔ table.get? "routes" = some (.list entries) := by
  unfold listed?
  split
  next found hfound => simp [hfound]
  next hnone => simpa using hnone entries

/-- A table with other entries. -/
def RouteTable.withRoutes (table : Entries) (entries : List Value) : Value :=
  .mapping (table.insert (.text "routes") (.list entries))

theorem RouteTable.entriesOf_withRoutes (table : Entries) (entries : List Value) :
    entriesOf (withRoutes table entries) = .ok entries := by
  simp only [entriesOf, withRoutes, Entries.get?_insert_self, Option.getD_some]

namespace ActionContext

/-- What is said of an entry that is refused. -/
def complaintAbout (index : Nat) (entry : Value) (fault : Fault) : String :=
  Style.apply { colour := some .red }
    (crossed ++ (labelOf index entry).plain ++ ": " ++ fault.text)

/-- What is said of entries, of which the first stands at `index`, given the faults of those that
are refused. -/
def complaintsAbout (index : Nat) : List (Value × Option Fault) → List String
  | [] => []
  | (entry, some fault) :: rest =>
    complaintAbout index entry fault :: complaintsAbout (index + 1) rest
  | (_, none) :: rest => complaintsAbout (index + 1) rest

def refusedCount (reports : List (Value × Option Fault)) : Nat :=
  reports.countP (·.2.isSome)

/-- What is said in the end, if anything was refused. -/
def closingComplaint (refused total : Nat) : List String :=
  if refused = 0 then []
  else
    [Style.apply { colour := some .red }
      (crossed ++ toString refused ++ " of " ++ toString total ++ " routes failed")]

/-- Entries that were tried, with their faults as failures. -/
def asTried (reports : List (Value × Option Fault)) : List (Value × Option Failure) :=
  reports.map fun (entry, fault) => (entry, fault.map .fault)

variable {context : ActionContext} {registry : Registry} {index : Nat} {entry : Value}
variable {loading : Loading} {fault : Fault} {entries : List Value}

/-! ## One entry -/

theorem load_tableOf (registry : Registry) (entry : Value) :
    registry.load (tableOf entry) = registry.loadEntries 0 [entry] := by
  have hentries : RouteTable.entriesOf (tableOf entry) = .ok [entry] :=
    RouteTable.entriesOf_withRoutes [] [entry]
  rw [Registry.load, hentries]

theorem isCalm_log (context : ActionContext) (records : List LogRecord) :
    (context.log records).IsCalm () :=
  Transcript.isCalm_log _ _

theorem reportEntry_of_accepted (h : loading.failure = none) :
    (context.reportEntry index entry loading).IsCalm false := by
  unfold reportEntry
  refine (context.isCalm_log _).bind ?_
  rw [h]
  refine Transcript.IsCalm.bind (x := ()) ?_ (Transcript.isCalm_pure false)
  unfold ifVerbose
  split
  · exact Transcript.isCalm_forM fun route _ => Transcript.isCalm_line _
  · exact Transcript.isCalm_pure ()

theorem reportEntry_of_fault (context : ActionContext) (h : loading.failure = some (.fault fault))
    (hlabel : (labelOf index entry).isShowable = true) :
    (context.reportEntry index entry loading).result = .ok true ∧
      (context.reportEntry index entry loading).complaints =
        [complaintAbout index entry fault] := by
  unfold reportEntry
  rw [(context.isCalm_log _).result_bind, (context.isCalm_log _).complaints_bind, h]
  dsimp only
  rw [if_pos hlabel]
  exact ⟨rfl, rfl⟩

theorem reportEntry_of_long_label (context : ActionContext)
    (h : loading.failure = some (.fault fault))
    (hlabel : (labelOf index entry).isShowable = false) :
    (context.reportEntry index entry loading).result = .error (.failed .outOfRange) ∧
      (context.reportEntry index entry loading).complaints = [] := by
  unfold reportEntry
  rw [(context.isCalm_log _).result_bind, (context.isCalm_log _).complaints_bind, h]
  dsimp only
  rw [hlabel]
  exact ⟨rfl, rfl⟩

theorem reportEntry_of_outOfRange (h : loading.failure = some .outOfRange) :
    (context.reportEntry index entry loading).result = .error (.failed .outOfRange) ∧
      (context.reportEntry index entry loading).complaints = [] := by
  unfold reportEntry
  rw [(context.isCalm_log _).result_bind, (context.isCalm_log _).complaints_bind, h]
  exact ⟨rfl, rfl⟩

theorem isShowable_labelOf (h : entry.isShowable = true) (index : Nat) :
    (labelOf index entry).isShowable = true := by
  unfold labelOf
  cases hname : entry.get? "name" with
  | none => rfl
  | some name => exact Value.isShowable_of_get? hname h

theorem isShowable_of_labelOf (h : (labelOf index entry).isShowable = false) :
    entry.isShowable = false := by
  rw [Bool.eq_false_iff]
  intro hshow
  rw [isShowable_labelOf hshow] at h
  cases h

/-! ## All entries -/

/-- Whether a transcript complains of the entries that were refused and counts them, or ends behind
the complaints about those before a refused entry with a number that is too long to be shown. -/
def Tells (transcript : Transcript Nat) (index : Nat) (tried : List (Value × Option Failure)) :
    Prop :=
  ∃ reports, transcript.complaints = complaintsAbout index reports ∧
    (tried = asTried reports ∧ transcript.result = .ok (refusedCount reports) ∨
      transcript.result = .error (.failed .outOfRange) ∧ ∃ entry failure after,
        tried = asTried reports ++ (entry, some failure) :: after ∧ entry.isShowable = false)

variable {rest : List (Value × Loading)} {tried : List (Value × Option Failure)}
variable {failure : Failure}

theorem complaintsAbout_cons (index : Nat) (report : Value × Option Fault)
    (reports : List (Value × Option Fault)) :
    complaintsAbout index (report :: reports) =
      complaintsAbout index [report] ++ complaintsAbout (index + 1) reports := by
  obtain ⟨entry, found⟩ := report
  cases found <;> rfl

theorem refusedCount_cons (report : Value × Option Fault) (reports : List (Value × Option Fault)) :
    refusedCount (report :: reports) = (if report.2.isSome then 1 else 0) + refusedCount reports := by
  rw [refusedCount, List.countP_cons, Nat.add_comm]
  rfl

theorem reportEntries_cons {failed : Bool}
    (hresult : (context.reportEntry index entry loading).result = .ok failed)
    (rest : List (Value × Loading)) :
    (context.reportEntries index ((entry, loading) :: rest)).complaints =
        (context.reportEntry index entry loading).complaints ++
          (context.reportEntries (index + 1) rest).complaints ∧
      (context.reportEntries index ((entry, loading) :: rest)).result =
        (context.reportEntries (index + 1) rest).result.map
          fun more => (if failed then 1 else 0) + more := by
  rw [reportEntries, Transcript.complaints_bind hresult, Transcript.bind_of_ok hresult]
  cases hrest : (context.reportEntries (index + 1) rest).result with
  | ok more =>
    rw [Transcript.complaints_bind hrest, Transcript.bind_of_ok hrest]
    exact ⟨congrArg _ (List.append_nil _), rfl⟩
  | error ending =>
    rw [Transcript.bind_of_error hrest]
    exact ⟨rfl, rfl⟩

theorem tells_cons (found : Option Fault)
    (hresult : (context.reportEntry index entry loading).result = .ok found.isSome)
    (hcomplaints : (context.reportEntry index entry loading).complaints =
      complaintsAbout index [(entry, found)])
    (h : Tells (context.reportEntries (index + 1) rest) (index + 1) tried) :
    Tells (context.reportEntries index ((entry, loading) :: rest)) index
      ((entry, found.map .fault) :: tried) := by
  obtain ⟨reports, hrest, hend⟩ := h
  obtain ⟨hall, hmapped⟩ := reportEntries_cons hresult rest
  refine ⟨(entry, found) :: reports, ?_, ?_⟩
  · rw [hall, hcomplaints, hrest]
    exact (complaintsAbout_cons index (entry, found) reports).symm
  · rcases hend with ⟨rfl, hcount⟩ | ⟨hcut, other, failure, after, rfl, hshow⟩
    · refine .inl ⟨rfl, ?_⟩
      rw [hmapped, hcount, refusedCount_cons]
      rfl
    · refine .inr ⟨?_, other, failure, after, rfl, hshow⟩
      rw [hmapped, hcut]
      rfl

theorem tells_of_error
    (h : (context.reportEntry index entry loading).result = .error (.failed .outOfRange) ∧
      (context.reportEntry index entry loading).complaints = [])
    (hshow : entry.isShowable = false) :
    Tells (context.reportEntries index ((entry, loading) :: rest)) index
      ((entry, some failure) :: tried) := by
  have hends : context.reportEntries index ((entry, loading) :: rest) =
      ⟨(context.reportEntry index entry loading).events, .error (.failed .outOfRange)⟩ := by
    rw [reportEntries, Transcript.bind_of_error h.1]
  rw [hends]
  exact ⟨[], h.2, .inr ⟨rfl, entry, failure, tried, rfl, hshow⟩⟩

/-- What is told are the faults of the refused entries, unless a number cuts the report short. -/
theorem tells_tryEach (context : ActionContext) (registry : Registry) (index : Nat)
    (entries : List Value) :
    Tells (context.reportEntries index (entries.zip (loadEach registry entries))) index
      (registry.tryEach entries) := by
  -- Checking and trying go on with the same registry, whether the entry was accepted or refused.
  induction entries generalizing registry index with
  | nil => exact ⟨[], rfl, .inl ⟨rfl, rfl⟩⟩
  | cons entry rest ih =>
    simp only [loadEach, List.zip_cons_cons, Registry.tryEach, load_tableOf, Registry.loadEntries]
    cases hentry : registry.registerEntry 0 entry with
    | ok pair =>
      obtain ⟨next, registration⟩ := pair
      have hreport : (context.reportEntry index entry ⟨next, [registration], none⟩).IsCalm false :=
        reportEntry_of_accepted rfl
      exact tells_cons none hreport.1 hreport.2 (ih next (index + 1))
    | error failure =>
      rcases Registry.exists_fault_or_of_registerEntry hentry with ⟨fault, rfl⟩ | ⟨rfl, hshow⟩
      · cases hlabel : (labelOf index entry).isShowable with
        | true =>
          have hfault : (⟨registry, [], some (.fault fault)⟩ : Loading).failure =
              some (.fault fault) := rfl
          obtain ⟨hresult, hcomplaints⟩ := context.reportEntry_of_fault hfault hlabel
          exact tells_cons (some fault) hresult hcomplaints (ih registry (index + 1))
        | false =>
          exact tells_of_error (context.reportEntry_of_long_label rfl hlabel)
            (isShowable_of_labelOf hlabel)
      · exact tells_of_error (reportEntry_of_outOfRange rfl) hshow

/-! ## Tables in files -/

variable {file : String} {table : Entries}

theorem checkedEntries_of_list (h : table.get? "routes" = some (.list entries)) :
    checkedEntries table = .ok entries := by
  rw [checkedEntries, h, Option.getD_some]
  cases entries <;> rfl

/-- What checking does with the number of refused entries. -/
def closeReport (context : ActionContext) (total refused : Nat) : Transcript Unit :=
  if refused = 0 then
    context.unlessQuiet (.success (ticked ++ toString total ++ " routes compiled"))
  else
    .refuse (crossed ++ toString refused ++ " of " ++ toString total ++ " routes failed")

theorem check_of_checkedEntries (hread : RouteTable.read context.files file = .ok table)
    (hentries : checkedEntries table = .ok entries) :
    context.check file =
      context.reportEntries 0 (entries.zip (loadEach .empty entries)) >>=
        context.closeReport entries.length := by
  unfold check
  rw [hread, Transcript.orRefuse_ok, Transcript.pure_bind, hentries, Transcript.orRefuse_ok,
    Transcript.pure_bind]
  rfl

theorem check_eq (hread : RouteTable.read context.files file = .ok table)
    (hroutes : table.get? "routes" = some (.list entries)) :
    context.check file =
      context.reportEntries 0 (entries.zip (loadEach .empty entries)) >>=
        context.closeReport entries.length :=
  check_of_checkedEntries hread (checkedEntries_of_list hroutes)

theorem closeReport_complaints (context : ActionContext) (total refused : Nat) :
    (context.closeReport total refused).complaints = closingComplaint refused total := by
  unfold closeReport closingComplaint unlessQuiet
  split_ifs <;> rfl

theorem exitCode_closeReport_eq_zero_iff {total refused : Nat} :
    (context.closeReport total refused).exitCode = 0 ↔ refused = 0 := by
  unfold closeReport unlessQuiet
  split_ifs with hrefused
  · exact iff_of_true rfl hrefused
  · exact iff_of_true rfl hrefused
  · exact iff_of_false Nat.one_ne_zero hrefused

theorem refusedCount_eq_zero_iff {reports : List (Value × Option Fault)} :
    refusedCount reports = 0 ↔ ∀ tried ∈ asTried reports, tried.2 = none := by
  rw [refusedCount, List.countP_eq_zero, asTried, List.forall_mem_map]
  simp

/-- As many entries are complained of as are counted. -/
theorem length_complaintsAbout (index : Nat) (reports : List (Value × Option Fault)) :
    (complaintsAbout index reports).length = refusedCount reports := by
  induction reports generalizing index with
  | nil => rfl
  | cons report rest ih =>
    obtain ⟨entry, found⟩ := report
    cases found <;> simp [complaintsAbout, refusedCount, ih (index + 1)]

theorem accepted_asTried (reports : List (Value × Option Fault)) :
    Registry.accepted (asTried reports) = Registry.accepted reports := by
  simp [Registry.accepted, asTried, List.filter_map, Function.comp_def]

variable {reports before after : List (Value × Option Fault)}

theorem map_fst_asTried (reports : List (Value × Option Fault)) :
    (asTried reports).map (·.1) = reports.map (·.1) := by
  rw [asTried, List.map_map]
  rfl

theorem failure_load_accepted (h : registry.tryEach entries = asTried reports ++ tried)
    (table : Entries) :
    (registry.load (RouteTable.withRoutes table (Registry.accepted reports))).failure = none := by
  simp only [Registry.load, RouteTable.entriesOf_withRoutes]
  rw [← accepted_asTried]
  exact Registry.failure_loadEntries_of_tryEach h 0

/-- Behind the accepted ones of the entries before it, a refused entry fails to load. -/
theorem failure_load_of_refused
    (h : registry.tryEach entries = asTried before ++ (entry, some failure) :: tried)
    (table : Entries) :
    ((registry.load (RouteTable.withRoutes table (Registry.accepted before))).registry.load
      (tableOf entry)).failure = some failure := by
  have hrefused := Registry.registerEntry_of_tryEach h
  rw [accepted_asTried] at hrefused
  rw [load_tableOf, Registry.load, RouteTable.entriesOf_withRoutes]
  simp only [Registry.loadEntries, hrefused]

theorem failure_load_of_reports (h : registry.tryEach entries = asTried reports ++ tried)
    (hreports : reports = before ++ (entry, some fault) :: after) (table : Entries) :
    ((registry.load (RouteTable.withRoutes table (Registry.accepted before))).registry.load
      (tableOf entry)).failure = some (.fault fault) := by
  have htried : registry.tryEach entries =
      asTried before ++ (entry, some (.fault fault)) :: (asTried after ++ tried) := by
    rw [h, hreports, asTried, List.map_append, List.append_assoc]
    rfl
  exact failure_load_of_refused htried table

theorem failure_loadFile_eq_none_iff {files : FileTree}
    (hread : RouteTable.read files file = .ok table)
    (hroutes : table.get? "routes" = some (.list entries)) :
    (Registry.empty.loadFile files file).failure = none ↔
      ∀ tried ∈ Registry.empty.tryEach entries, tried.2 = none := by
  have hentries : RouteTable.entriesOf (.mapping table) = .ok entries := by
    simp only [RouteTable.entriesOf, hroutes, Option.getD_some]
  rw [← Registry.failure_loadEntries_eq_none_iff 0]
  unfold Registry.loadFile Registry.load
  simp only [hread, hentries]

/-- A table is checked without complaints exactly if it loads. Entries that are refused are
complained of in their places, each with the fault by which it is refused behind those before it
that are not complained of; these load on their own. Of all entries that is told, with the number of
the refused ones in the end, or else of those before a refused entry with a number that is too long
to be shown, which ends checking. -/
theorem check_of_read (context : ActionContext) (file : String) {table : Entries}
    {entries : List Value} (hread : RouteTable.read context.files file = .ok table)
    (hroutes : table.get? "routes" = some (.list entries)) :
    ((context.check file).exitCode = 0 ↔
      (Registry.empty.loadFile context.files file).failure = none) ∧
    ∃ reports : List (Value × Option Fault),
      (Registry.empty.load
        (RouteTable.withRoutes table (Registry.accepted reports))).failure = none ∧
      (∀ before entry fault after, reports = before ++ (entry, some fault) :: after →
        ((Registry.empty.load
          (RouteTable.withRoutes table (Registry.accepted before))).registry.load
            (tableOf entry)).failure = some (.fault fault)) ∧
      (reports.map (·.1) = entries ∧
          (context.check file).complaints =
            complaintsAbout 0 reports ++ closingComplaint (refusedCount reports) entries.length ∨
        (context.check file).result = .error (.failed .outOfRange) ∧
          (context.check file).complaints = complaintsAbout 0 reports ∧
          ∃ entry after, entries = reports.map (·.1) ++ entry :: after ∧
            entry.isShowable = false ∧
            ((Registry.empty.load
              (RouteTable.withRoutes table (Registry.accepted reports))).registry.load
                (tableOf entry)).failure ≠ none) := by
  rw [failure_loadFile_eq_none_iff hread hroutes, check_eq hread hroutes]
  have hentries := Registry.map_fst_tryEach .empty entries
  obtain ⟨reports, hcomplaints, ⟨htried, hcount⟩ | ⟨hcut, entry, failure, after, htried, hshow⟩⟩ :=
    tells_tryEach context .empty 0 entries
  · have hprefix : Registry.empty.tryEach entries = asTried reports ++ [] := by
      rw [htried, List.append_nil]
    refine ⟨?_, reports, failure_load_accepted hprefix table,
      fun _ _ _ _ hreports => failure_load_of_reports hprefix hreports table, .inl ⟨?_, ?_⟩⟩
    · rw [Transcript.exitCode_bind_of_ok hcount, exitCode_closeReport_eq_zero_iff,
        refusedCount_eq_zero_iff, htried]
    · rw [← hentries, htried, map_fst_asTried]
    · rw [Transcript.complaints_bind hcount, hcomplaints, closeReport_complaints]
  · have hends : context.reportEntries 0 (entries.zip (loadEach .empty entries)) >>=
        context.closeReport entries.length =
          ⟨(context.reportEntries 0 (entries.zip (loadEach .empty entries))).events,
            .error (.failed .outOfRange)⟩ :=
      Transcript.bind_of_error hcut
    refine ⟨?_, reports, failure_load_accepted htried table,
      fun _ _ _ _ hreports => failure_load_of_reports htried hreports table, .inr ⟨?_, ?_, ?_⟩⟩
    -- The entry with the number is refused, so that the table does not load either.
    · rw [hends, Transcript.exitCode_of_failed rfl, htried]
      refine iff_of_false Nat.one_ne_zero fun hall => ?_
      cases hall (entry, some failure) (by simp)
    · rw [hends]
    · rw [hends]
      exact hcomplaints
    · refine ⟨entry, after.map (·.1), ?_, hshow, ?_⟩
      · rw [← hentries, htried, List.map_append, map_fst_asTried]
        rfl
      · rw [failure_load_of_refused htried table]
        exact Option.some_ne_none failure

/-- A table in which a name is free for its second entry, as its first is refused. -/
def brewing : ActionContext where
  files := .ofFiles [("t.yaml",
    "routes:\n- name: a\n  template: /\x7b\n- name: a\n  template: a\n- 7")]
  settings := .ofRaw {}
  options := { isVerbose := false, isQuiet := false, configFile := none }
  width := 80

/-- Two of the three entries are refused, and the other one loads. -/
theorem check_of_read_brewing :
    ∃ table entries reports,
      RouteTable.read brewing.files "t.yaml" = .ok table ∧
      table.get? "routes" = some (.list entries) ∧
      (brewing.check "t.yaml").exitCode = 1 ∧
      (Registry.empty.loadFile brewing.files "t.yaml").failure ≠ none ∧
      refusedCount reports = 2 ∧ reports.map (·.1) = entries ∧ entries.length = 3 ∧
      (Registry.empty.load
        (RouteTable.withRoutes table (Registry.accepted reports))).failure = none := by
  have hcode : (brewing.check "t.yaml").exitCode = 1 ∧
      (brewing.check "t.yaml").result ≠ .error (.failed .outOfRange) ∧
      (brewing.check "t.yaml").complaints.length = 3 := by decide +kernel
  have hfound : ((RouteTable.read brewing.files "t.yaml").toOption.bind
      RouteTable.listed?).any (·.length == 3) = true := by decide +kernel
  obtain ⟨entries, hlisted, hlength⟩ := (Option.any_eq_true _ _).mp hfound
  obtain ⟨table, htable, hentries⟩ := Option.bind_eq_some_iff.mp hlisted
  have hread := Except.toOption_eq_some_iff.mp htable
  have hroutes := RouteTable.listed?_eq_some_iff.mp hentries
  obtain ⟨hiff, reports, hloads, -, ⟨hmap, hcomplaints⟩ | ⟨hcut, -⟩⟩ :=
    check_of_read brewing "t.yaml" hread hroutes
  · refine ⟨table, entries, reports, hread, hroutes, hcode.1, ?_, ?_, hmap,
      beq_iff_eq.mp hlength, hloads⟩
    · rw [Ne, ← hiff, hcode.1]
      exact Nat.one_ne_zero
    · have hcount := hcode.2.2
      rw [hcomplaints, List.length_append, length_complaintsAbout, closingComplaint] at hcount
      split_ifs at hcount with hnone
      · rw [hnone] at hcount
        cases hcount
      · exact Nat.succ.inj hcount
  · cases hcode.2.1 hcut

/-- A number in the place of a name is refused, and cuts the report short if it is too long. -/
theorem reportEntries_long_name :
    let entry : Value := .mapping [(.text "name", .integer (10 ^ Number.numeralLimit))]
    (Registry.empty.load (tableOf entry)).failure =
      some (.fault (.configInvalid "routes[0].name" "expected a string")) ∧
    (brewing.reportEntries 0 ([entry].zip (loadEach .empty [entry]))).result =
      .error (.failed .outOfRange) := by
  intro entry
  have hload : (Registry.empty.load (tableOf entry)).failure =
      some (.fault (.configInvalid "routes[0].name" "expected a string")) := rfl
  have hlabel : (labelOf 0 entry).isShowable = false := Registry.isShowable_long_number
  obtain ⟨hresult, -⟩ := brewing.reportEntry_of_long_label hload hlabel
  refine ⟨hload, ?_⟩
  rw [loadEach, List.zip_cons_cons, reportEntries]
  exact congrArg Transcript.result (Transcript.bind_of_error hresult)

end ActionContext
end TypedRoutes
