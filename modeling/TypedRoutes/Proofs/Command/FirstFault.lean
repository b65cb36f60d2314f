import TypedRoutes.Proofs.Command.Checking
import TypedRoutes.Proofs.Routing.Prefix

/-!
# What is complained of first

A table is checked without a failure exactly if it loads. The first entry that is complained of is
the one that loading ends with, and the fault is the same but for the place: every entry is checked
as if it stood first. What is no list of entries is gone through all the same: its characters or
keys are complained of one by one, and what cannot be gone through ends checking without a
complaint.
-/
namespace TypedRoutes

namespace ActionContext

open RouteTable (placeOf)

/-- How the fault of the entry at an index is told: as it is, or with the place of the first entry if
the entry is malformed. -/
inductive ToldAs (index : Nat) : (fault told : Fault) → Prop
  | same {fault : Fault} : ToldAs index fault fault
  | moved {part reason : String} :
    ToldAs index (.configInvalid (placeOf index part) reason) (.configInvalid (placeOf 0 part) reason)

variable {context : ActionContext} {file : String} {table : Entries} {entry value : Value}
variable {before after entries rest : List Value} {registry last : Registry} {index : Nat}
variable {registered : List Registration} {failure : Failure} {fault told : Fault}

/-! ## Entries that fail -/

theorem load_tableOf_of_failsOn (h : registry.FailsOn 0 entry failure) :
    registry.load (tableOf entry) = ⟨registry, [], some failure⟩ := by
  rw [load_tableOf, Registry.loadEntries, Registry.registerEntry_eq_error_iff.mpr h]

/-- Standing first, an entry fails in the same way but for its place. -/
theorem exists_toldAs (h : registry.FailsOn index entry (.fault fault)) :
    ∃ told, registry.FailsOn 0 entry (.fault told) ∧ ToldAs index fault told := by
  cases h with
  | malformed hmalformed => exact ⟨_, .malformed hmalformed, .moved⟩
  | refused hentry hregister => exact ⟨fault, .refused hentry hregister, .same⟩

theorem failsOn_outOfRange_of_place (h : registry.FailsOn index entry .outOfRange) (other : Nat) :
    registry.FailsOn other entry .outOfRange := by
  cases h with
  | refused hentry hregister => exact .refused hentry hregister

/-- A fault of an entry is complained of, and checking goes on with the same registry. -/
theorem reportEntries_of_fault (context : ActionContext) (h : registry.FailsOn 0 entry (.fault told))
    (hlabel : (labelOf index entry).isShowable = true) (rest : List Value) :
    let reports := context.reportEntries index
      ((entry :: rest).zip (loadEach registry (entry :: rest)))
    let others := context.reportEntries (index + 1) (rest.zip (loadEach registry rest))
    reports.complaints = complaintAbout index entry told :: others.complaints ∧
      reports.result = others.result.map fun more => 1 + more := by
  intro reports others
  have hloading := load_tableOf_of_failsOn h
  have hfailure : (registry.load (tableOf entry)).failure = some (.fault told) :=
    congrArg Loading.failure hloading
  obtain ⟨hresult, hcomplaints⟩ := context.reportEntry_of_fault hfailure hlabel
  obtain ⟨hall, hmapped⟩ := reportEntries_cons hresult (rest.zip (loadEach registry rest))
  have hreports : reports = context.reportEntries index
      ((entry, registry.load (tableOf entry)) :: rest.zip (loadEach registry rest)) := by
    simp only [reports, loadEach, List.zip_cons_cons, hloading]
  rw [hreports, hall, hmapped, hcomplaints]
  exact ⟨rfl, rfl⟩

/-- A number that is too long to be shown ends checking. -/
theorem reportEntries_of_long_number (context : ActionContext)
    (h : registry.FailsOn 0 entry failure)
    (hlong : failure = .outOfRange ∨
      (∃ fault, failure = .fault fault) ∧ (labelOf index entry).isShowable = false)
    (rest : List Value) :
    let reports := context.reportEntries index
      ((entry :: rest).zip (loadEach registry (entry :: rest)))
    reports.result = .error (.failed .outOfRange) ∧ reports.complaints = [] := by
  intro reports
  have hloading := load_tableOf_of_failsOn h
  have hentry :
      (context.reportEntry index entry (registry.load (tableOf entry))).result =
          .error (.failed .outOfRange) ∧
        (context.reportEntry index entry (registry.load (tableOf entry))).complaints = [] := by
    rcases hlong with rfl | ⟨⟨fault, rfl⟩, hlabel⟩
    · exact reportEntry_of_outOfRange (congrArg Loading.failure hloading)
    · exact context.reportEntry_of_long_label (congrArg Loading.failure hloading) hlabel
  have hreports : reports =
      ⟨(context.reportEntry index entry (registry.load (tableOf entry))).events,
        .error (.failed .outOfRange)⟩ := by
    simp only [reports, loadEach, List.zip_cons_cons, reportEntries]
    exact Transcript.bind_of_error hentry.1
  rw [hreports]
  exact ⟨rfl, hentry.2⟩

/-- Of entries that are registered nothing is complained, and checking goes on behind them. -/
theorem reportEntries_of_registers (context : ActionContext)
    (h : registry.Registers before last registered) (index : Nat) (after : List Value) :
    let reports := context.reportEntries index
      ((before ++ after).zip (loadEach registry (before ++ after)))
    let others := context.reportEntries (index + before.length) (after.zip (loadEach last after))
    reports.complaints = others.complaints ∧ reports.result = others.result := by
  induction h generalizing index with
  | nil => exact ⟨rfl, rfl⟩
  | @cons registry next last value rest entry registration others hentry hregister _ ih =>
    have hloading : registry.load (tableOf value) = ⟨next, [registration], none⟩ := by
      rw [load_tableOf, Registry.loadEntries,
        Registry.registerEntry_eq_ok_iff.mpr ⟨entry, hentry, hregister⟩]
      rfl
    have hcalm : (context.reportEntry index value (registry.load (tableOf value))).IsCalm false :=
      reportEntry_of_accepted (congrArg Loading.failure hloading)
    have hplace : index + (value :: rest).length = index + 1 + rest.length := by
      rw [List.length_cons]
      omega
    obtain ⟨hcomplaints, hresult⟩ := ih (index + 1)
    obtain ⟨hall, hmapped⟩ := reportEntries_cons hcalm.1
      ((rest ++ after).zip (loadEach next (rest ++ after)))
    rw [hcalm.2, List.nil_append] at hall
    simp only [List.cons_append, loadEach, List.zip_cons_cons]
    rw [hplace, show (registry.load (tableOf value)).registry = next from
      congrArg Loading.registry hloading, hall, hmapped, hcomplaints, hresult]
    refine ⟨rfl, ?_⟩
    simp only [Bool.false_eq_true, if_false, Nat.zero_add]
    cases (context.reportEntries (index + 1 + rest.length)
      (after.zip (loadEach last after))).result <;> rfl

/-! ## Lists of entries -/

/-- Which fault is told first if an entry fails, or that a number in it cuts the report short. -/
theorem complaints_of_failsOn (context : ActionContext)
    (hbefore : registry.Registers before last registered)
    (hfails : last.FailsOn (index + before.length) entry failure) (after : List Value) :
    let entries := before ++ entry :: after
    let reports := context.reportEntries index (entries.zip (loadEach registry entries))
    (∃ fault told, failure = .fault fault ∧ ToldAs (index + before.length) fault told ∧
        (last.load (tableOf entry)).failure = some (.fault told) ∧
        reports.complaints.head? = some (complaintAbout (index + before.length) entry told) ∧
        reports.result ≠ .ok 0) ∨
      entry.isShowable = false ∧ reports.result = .error (.failed .outOfRange) ∧
        reports.complaints = [] := by
  intro entries reports
  obtain ⟨hcomplaints, hresult⟩ :=
    context.reportEntries_of_registers hbefore index (entry :: after)
  rcases Registry.exists_fault_or_of_registerEntry
      (Registry.registerEntry_eq_error_iff.mpr hfails) with ⟨fault, rfl⟩ | ⟨rfl, hshow⟩
  · obtain ⟨told, htold, htoldAs⟩ := exists_toldAs hfails
    cases hlabel : (labelOf (index + before.length) entry).isShowable with
    | true =>
      obtain ⟨hfirst, hmapped⟩ := context.reportEntries_of_fault htold hlabel after
      refine .inl ⟨fault, told, rfl, htoldAs,
        congrArg Loading.failure (load_tableOf_of_failsOn htold), ?_, ?_⟩
      · rw [hcomplaints, hfirst]
        rfl
      · rw [hresult, hmapped, Ne, Except.map_eq_ok_iff]
        rintro ⟨more, -, hmore⟩
        omega
    | false =>
      obtain ⟨hcut, hnone⟩ :=
        context.reportEntries_of_long_number htold (.inr ⟨⟨told, rfl⟩, hlabel⟩) after
      exact .inr ⟨isShowable_of_labelOf hlabel, hresult.trans hcut, hcomplaints.trans hnone⟩
  · obtain ⟨hcut, hnone⟩ :=
      context.reportEntries_of_long_number (failsOn_outOfRange_of_place hfails 0) (.inl rfl) after
    exact .inr ⟨hshow, hresult.trans hcut, hcomplaints.trans hnone⟩

theorem isCalm_reportEntries_of_registers (context : ActionContext)
    (h : registry.Registers entries last registered) (index : Nat) :
    (context.reportEntries index (entries.zip (loadEach registry entries))).IsCalm 0 := by
  obtain ⟨hcomplaints, hresult⟩ := context.reportEntries_of_registers h index []
  rw [List.append_nil] at hcomplaints hresult
  exact ⟨hresult, hcomplaints⟩

/-- The only failure that is not handled is that of a number in one of the entries. -/
theorem exists_of_reportEntries_eq_failed
    (h : (context.reportEntries index (entries.zip (loadEach registry entries))).result =
      .error (.failed failure)) :
    failure = .outOfRange ∧ ∃ entry ∈ entries, entry.isShowable = false := by
  have hentries := Registry.map_fst_tryEach registry entries
  obtain ⟨reports, -, ⟨-, hcount⟩ | ⟨hcut, entry, _, after, htried, hshow⟩⟩ :=
    tells_tryEach context registry index entries
  · rw [hcount] at h
    cases h
  · rw [hcut] at h
    cases h
    refine ⟨rfl, entry, ?_, hshow⟩
    rw [← hentries, htried]
    simp

/-! ## What is no list of entries -/

/-- The fault of what is no mapping, as it is told wherever it stands. -/
def notMapping : Fault :=
  .configInvalid "routes[0]" "expected a mapping"

theorem failsOn_notMapping (h : ∀ entries, value ≠ .mapping entries) (registry : Registry) :
    registry.FailsOn 0 value (.fault notMapping) :=
  .malformed (.noMapping h)

theorem isShowable_labelOf_of_noMapping (h : ∀ entries, value ≠ .mapping entries) (index : Nat) :
    (labelOf index value).isShowable = true := by
  have hname : value.get? "name" = none := by
    cases value with
    | mapping entries => exact absurd rfl (h entries)
    | _ => rfl
  rw [labelOf, hname]
  rfl

theorem reportEntries_of_noMappings (context : ActionContext) {items : List Value}
    (h : ∀ item ∈ items, ∀ entries, item ≠ .mapping entries) (registry : Registry) (index : Nat) :
    (context.reportEntries index (items.zip (loadEach registry items))).complaints.head? =
        items.head?.map (complaintAbout index · notMapping) ∧
      (context.reportEntries index (items.zip (loadEach registry items))).result =
        .ok items.length := by
  induction items generalizing index with
  | nil => exact ⟨rfl, rfl⟩
  | cons item rest ih =>
    obtain ⟨hitem, hrest⟩ := List.forall_mem_cons.mp h
    obtain ⟨hcomplaints, hresult⟩ := context.reportEntries_of_fault
      (failsOn_notMapping hitem registry) (isShowable_labelOf_of_noMapping hitem index) rest
    rw [hcomplaints, hresult, (ih hrest (index + 1)).2, List.length_cons, Nat.add_comm rest.length]
    exact ⟨rfl, rfl⟩

/-- No item of a value that is no list is a mapping, if its keys can be keys. -/
theorem ne_mapping_of_mem_items? {items : List Value} (h : value.HasPlainKeys)
    (hlist : ∀ entries, value ≠ .list entries) (hitems : value.items? = some items) :
    ∀ item ∈ items, ∀ entries, item ≠ .mapping entries := by
  intro item hitem entries
  cases value with
  | list items => exact absurd rfl (hlist items)
  | text s =>
    cases hitems
    obtain ⟨c, -, rfl⟩ := List.mem_map.mp hitem
    exact Value.noConfusion
  | mapping inner =>
    cases hitems
    obtain ⟨entry, hentry, rfl⟩ := List.mem_map.mp hitem
    have hkey := (Value.hasPlainKeys_mapping_iff.mp h entry hentry).1
    intro heq
    rw [heq] at hkey
    cases hkey
  | _ => cases hitems

theorem items?_ne_nil {items : List Value} (hpresent : value.isPresent = true)
    (hitems : value.items? = some items) : items ≠ [] := by
  rintro rfl
  cases value with
  | list items =>
    cases hitems
    cases hpresent
  | text s =>
    have hnone : s.toList = [] := List.map_eq_nil_iff.mp (Option.some.inj hitems)
    simp [Value.isPresent, hnone] at hpresent
  | mapping entries =>
    have hnone : entries = [] := List.map_eq_nil_iff.mp (Option.some.inj hitems)
    simp [Value.isPresent, hnone] at hpresent
  | _ => cases hitems

/-! ## Tables -/

theorem result_closeReport (context : ActionContext) (total refused : Nat) :
    (context.closeReport total refused).result = if refused = 0 then .ok () else .error (.exit 1) := by
  unfold closeReport unlessQuiet
  split_ifs <;> rfl

section Checked

variable (hread : RouteTable.read context.files file = .ok table)
variable (hentries : checkedEntries table = .ok entries)

include hread hentries

theorem check_eq_failed_iff : (context.check file).result = .error (.failed failure) ↔
    (context.reportEntries 0 (entries.zip (loadEach .empty entries))).result =
      .error (.failed failure) := by
  rw [check_of_checkedEntries hread hentries]
  cases hreports : (context.reportEntries 0 (entries.zip (loadEach .empty entries))).result with
  | ok refused =>
    rw [Transcript.bind_of_ok hreports, result_closeReport]
    split_ifs <;> simp
  | error ending =>
    rw [Transcript.bind_of_error hreports]
    simp

theorem exitCode_check_eq_zero_iff : (context.check file).exitCode = 0 ↔
    (context.reportEntries 0 (entries.zip (loadEach .empty entries))).result = .ok 0 := by
  rw [check_of_checkedEntries hread hentries]
  obtain ⟨reports, -, ⟨-, hcount⟩ | ⟨hcut, -⟩⟩ := tells_tryEach context .empty 0 entries
  · rw [Transcript.exitCode_bind_of_ok hcount, exitCode_closeReport_eq_zero_iff, hcount]
    simp
  · rw [Transcript.bind_of_error hcut, Transcript.exitCode_of_failed rfl, hcut]
    simp

theorem head?_complaints_check {text : String}
    (h : (context.reportEntries 0 (entries.zip (loadEach .empty entries))).complaints.head? =
      some text) :
    (context.check file).complaints.head? = some text := by
  rw [check_of_checkedEntries hread hentries]
  exact Transcript.head?_complaints_bind h

theorem complaints_check_of_failed
    (h : (context.reportEntries 0 (entries.zip (loadEach .empty entries))).result =
      .error (.failed failure)) :
    (context.check file).complaints =
      (context.reportEntries 0 (entries.zip (loadEach .empty entries))).complaints := by
  rw [check_of_checkedEntries hread hentries, Transcript.bind_of_error h]
  rfl

end Checked

/-- What checking a table with a list of entries comes to, beside loading it. -/
theorem check_of_list (context : ActionContext)
    (hread : RouteTable.read context.files file = .ok table)
    (hroutes : table.get? "routes" = some (.list entries)) :
    let loading := Registry.empty.loadFile context.files file
    let checking := context.check file
    (checking.exitCode = 0 ↔ loading.failure = none) ∧
    ∀ failure, loading.failure = some failure →
      ∃ before entry after, entries = before ++ entry :: after ∧
        Registry.empty.Registers before loading.registry loading.registered ∧
        loading.registry.FailsOn before.length entry failure ∧
        ((∃ fault told, failure = .fault fault ∧ ToldAs before.length fault told ∧
            (loading.registry.load (tableOf entry)).failure = some (.fault told) ∧
            checking.complaints.head? = some (complaintAbout before.length entry told)) ∨
          entry.isShowable = false ∧ checking.result = .error (.failed .outOfRange) ∧
            checking.complaints = []) := by
  intro loading checking
  have hentries := checkedEntries_of_list hroutes
  have hloading : loading = Registry.empty.loadEntries 0 entries :=
    (Registry.loadFile_of_read hread .empty).trans (Registry.load_of_list hroutes)
  rw [exitCode_check_eq_zero_iff hread hentries, hloading]
  rcases Registry.registers_or_failsOn .empty 0 entries with
    ⟨last, registered, hall⟩ | ⟨before, entry, after, last, registered, failure, rfl, hbefore,
      hfails⟩
  · rw [Registry.loadEntries_eq_of_registers hall]
    exact ⟨iff_of_true (context.isCalm_reportEntries_of_registers hall 0).1 rfl, nofun⟩
  · have hfirst := context.complaints_of_failsOn hbefore hfails after
    rw [Registry.loadEntries_eq_of_failsOn hbefore hfails]
    rw [Nat.zero_add] at hfails hfirst
    refine ⟨iff_of_false ?_ (Option.some_ne_none failure), ?_⟩
    · rcases hfirst with ⟨_, _, -, -, -, -, hcount⟩ | ⟨-, hcut, -⟩
      · exact hcount
      · rw [hcut]
        exact nofun
    · rintro _ ⟨⟩
      refine ⟨before, entry, after, rfl, hbefore, hfails, ?_⟩
      rcases hfirst with ⟨fault, told, hfault, htoldAs, htold, hhead, -⟩ | ⟨hshow, hcut, hnone⟩
      · exact .inl ⟨fault, told, hfault, htoldAs, htold, head?_complaints_check hread hentries hhead⟩
      · refine .inr ⟨hshow, (check_eq_failed_iff hread hentries).mpr hcut, ?_⟩
        rw [complaints_check_of_failed hread hentries hcut, hnone]

/-- What is not there is no failure, to checking or to loading. -/
theorem check_of_absent (hread : RouteTable.read context.files file = .ok table)
    (hlist : ∀ entries, (table.get? "routes").getD .null ≠ .list entries)
    (hpresent : ((table.get? "routes").getD .null).isPresent = false) :
    (context.check file).result = .ok () ∧
      (Registry.empty.loadFile context.files file).failure = none := by
  have hentries : checkedEntries table = .ok [] := by
    rw [checkedEntries, hpresent]
    rfl
  have hlisted : RouteTable.entriesOf (.mapping table) = .ok [] := by
    rw [RouteTable.entriesOf]
    split
    next entries hvalue => exact absurd hvalue (hlist entries)
    · rw [hpresent]
      rfl
  rw [check_of_checkedEntries hread hentries, Registry.loadFile_of_read hread, Registry.load, hlisted]
  refine ⟨?_, rfl⟩
  rw [Transcript.bind_of_ok rfl, result_closeReport]
  rfl

/-- What is no list of entries is not loaded, and is checked item by item. -/
theorem check_of_noList (context : ActionContext)
    (hread : RouteTable.read context.files file = .ok table)
    (hroutes : table.get? "routes" = some value) (hpresent : value.isPresent = true)
    (hlist : ∀ entries, value ≠ .list entries) :
    let checking := context.check file
    checking.exitCode = 1 ∧
    (Registry.empty.loadFile context.files file).failure =
      some (.fault (.configInvalid "routes" "expected a list of route entries")) ∧
    ((∃ item rest, value.items? = some (item :: rest) ∧
        checking.complaints.head? = some (complaintAbout 0 item notMapping) ∧
        ∀ failure, checking.result ≠ .error (.failed failure)) ∨
      value.items? = none ∧ checking.result = .error (.failed .wrongShape) ∧
        checking.complaints = []) := by
  intro checking
  have hlisted : RouteTable.entriesOf (.mapping table) =
      .error (.configInvalid "routes" "expected a list of route entries") := by
    rw [RouteTable.entriesOf, hroutes, Option.getD_some]
    split
    next entries => exact absurd rfl (hlist entries)
    · rw [hpresent]
      rfl
  have hfailure : (Registry.empty.loadFile context.files file).failure =
      some (.fault (.configInvalid "routes" "expected a list of route entries")) := by
    rw [Registry.loadFile_of_read hread, Registry.load, hlisted]
  have hkeys : value.HasPlainKeys := by
    have hvalues := Value.hasPlainKeys_mapping_iff.mp
      (RouteTable.holds_read Value.invariant_hasPlainKeys hread)
    obtain ⟨key, hmem⟩ := Entries.exists_mem_of_find? hroutes
    exact (hvalues _ hmem).2
  cases hitems : value.items? with
  | none =>
    have hentries : checkedEntries table = .error .wrongShape := by
      rw [checkedEntries, hroutes, Option.getD_some, hpresent, hitems]
      rfl
    have hchecking : checking = ⟨[], .error (.failed .wrongShape)⟩ := by
      unfold checking check
      rw [hread, Transcript.orRefuse_ok, Transcript.pure_bind, hentries]
      rfl
    exact ⟨by rw [hchecking]; rfl, hfailure, .inr ⟨rfl, by rw [hchecking], by rw [hchecking]; rfl⟩⟩
  | some items =>
    have hentries : checkedEntries table = .ok items := by
      rw [checkedEntries, hroutes, Option.getD_some, hpresent, hitems]
      rfl
    obtain ⟨item, rest, rfl⟩ := List.exists_cons_of_ne_nil (items?_ne_nil hpresent hitems)
    obtain ⟨hhead, hcount⟩ := context.reportEntries_of_noMappings
      (ne_mapping_of_mem_items? hkeys hlist hitems) .empty 0
    have hresult : checking.result = .error (.exit 1) := by
      simp only [checking]
      rw [check_of_checkedEntries hread hentries, Transcript.bind_of_ok hcount,
        result_closeReport]
      rfl
    refine ⟨?_, hfailure, .inl ⟨item, rest, rfl, head?_complaints_check hread hentries hhead, ?_⟩⟩
    · rw [Transcript.exitCode, hresult]
    · intro failure hfailed
      rw [hresult] at hfailed
      cases hfailed

theorem routes_cases (table : Entries) :
    (∃ entries, table.get? "routes" = some (.list entries)) ∨
      (∃ value, table.get? "routes" = some value ∧ value.isPresent = true ∧
        ∀ entries, value ≠ .list entries) ∨
      (∀ entries, (table.get? "routes").getD .null ≠ .list entries) ∧
        ((table.get? "routes").getD .null).isPresent = false := by
  cases hroutes : table.get? "routes" with
  | none => exact .inr (.inr ⟨nofun, rfl⟩)
  | some value =>
    by_cases hlist : ∃ entries, value = .list entries
    · obtain ⟨entries, rfl⟩ := hlist
      exact .inl ⟨entries, rfl⟩
    · rw [not_exists] at hlist
      cases hpresent : value.isPresent with
      | true => exact .inr (.inl ⟨value, rfl, hpresent, hlist⟩)
      | false => exact .inr (.inr ⟨hlist, hpresent⟩)

/-- A table is checked without a failure exactly if it loads. A failure that is not handled is that
of a number in an entry that is too long to be shown, or of a value under `routes` that cannot be
gone through. The entry that loading a list fails at is the first that is complained of, with the
fault that it fails with as an entry on its own: it is the same, but tells of the first place if the
entry is malformed. Of what is no list the first item is complained of as no mapping. -/
theorem check_first_fault (context : ActionContext) (file : String) {table : Entries}
    (hread : RouteTable.read context.files file = .ok table) :
    let loading := Registry.empty.loadFile context.files file
    let checking := context.check file
    (checking.exitCode = 0 ↔ loading.failure = none) ∧
    (∀ failure, checking.result = .error (.failed failure) →
      (failure = .outOfRange ∧ ∃ entries, table.get? "routes" = some (.list entries) ∧
        ∃ entry ∈ entries, entry.isShowable = false) ∨
      failure = .wrongShape ∧ ∃ value, table.get? "routes" = some value ∧
        value.isPresent = true ∧ value.items? = none) ∧
    (∀ entries failure, table.get? "routes" = some (.list entries) →
      loading.failure = some failure →
      ∃ before entry after, entries = before ++ entry :: after ∧
        Registry.empty.Registers before loading.registry loading.registered ∧
        loading.registry.FailsOn before.length entry failure ∧
        ((∃ fault told, failure = .fault fault ∧ ToldAs before.length fault told ∧
            (loading.registry.load (tableOf entry)).failure = some (.fault told) ∧
            checking.complaints.head? = some (complaintAbout before.length entry told)) ∨
          entry.isShowable = false ∧ checking.result = .error (.failed .outOfRange) ∧
            checking.complaints = [])) ∧
    ∀ value, table.get? "routes" = some value → value.isPresent = true →
      (∀ entries, value ≠ .list entries) →
      loading.failure =
        some (.fault (.configInvalid "routes" "expected a list of route entries")) ∧
      ((∃ item rest, value.items? = some (item :: rest) ∧
          checking.complaints.head? = some (complaintAbout 0 item notMapping)) ∨
        value.items? = none ∧ checking.result = .error (.failed .wrongShape) ∧
          checking.complaints = []) := by
  intro loading checking
  have hlists (entries : List Value) (hroutes : table.get? "routes" = some (.list entries)) :=
    context.check_of_list hread hroutes
  have hothers (value : Value) (hroutes : table.get? "routes" = some value)
      (hpresent : value.isPresent = true) (hlist : ∀ entries, value ≠ .list entries) :=
    context.check_of_noList hread hroutes hpresent hlist
  refine ⟨?_, ?_, fun entries failure hroutes => (hlists entries hroutes).2 failure, ?_⟩
  · rcases routes_cases table with
      ⟨entries, hroutes⟩ | ⟨value, hroutes, hpresent, hlist⟩ | ⟨hlist, hpresent⟩
    · exact (hlists entries hroutes).1
    · obtain ⟨hcode, hfailure, -⟩ := hothers value hroutes hpresent hlist
      rw [hcode, hfailure]
      exact iff_of_false Nat.one_ne_zero (Option.some_ne_none _)
    · obtain ⟨hresult, hfailure⟩ := check_of_absent hread hlist hpresent
      exact iff_of_true (by rw [Transcript.exitCode, hresult]) hfailure
  · intro failure hresult
    rcases routes_cases table with
      ⟨entries, hroutes⟩ | ⟨value, hroutes, hpresent, hlist⟩ | ⟨hlist, hpresent⟩
    · obtain ⟨hrange, hentry⟩ := exists_of_reportEntries_eq_failed
        ((check_eq_failed_iff hread (checkedEntries_of_list hroutes)).mp hresult)
      exact .inl ⟨hrange, entries, hroutes, hentry⟩
    · rcases (hothers value hroutes hpresent hlist).2.2 with
        ⟨_, _, -, -, hhandled⟩ | ⟨hitems, hshape, -⟩
      · exact absurd hresult (hhandled failure)
      · rw [hshape] at hresult
        cases hresult
        exact .inr ⟨rfl, value, hroutes, hpresent, hitems⟩
    · rw [(check_of_absent hread hlist hpresent).1] at hresult
      cases hresult
  · intro value hroutes hpresent hlist
    obtain ⟨-, hfailure, htold⟩ := hothers value hroutes hpresent hlist
    refine ⟨hfailure, htold.imp_left ?_⟩
    rintro ⟨item, rest, hitems, hhead, -⟩
    exact ⟨item, rest, hitems, hhead⟩

/-- What an action works with that finds a table in its file. -/
def withTable (content : String) : ActionContext where
  files := .ofFiles [("t.yaml", content)]
  settings := .ofRaw {}
  options := { isVerbose := false, isQuiet := false, configFile := none }
  width := 80

/-- The fault of a name that is given once more is told as loading ends with it. -/
theorem check_first_fault_duplicate :
    let context := withTable "routes:\n- {name: a, template: /a}\n- {name: a, template: /b}"
    let fault : Fault := .nameTaken "a" ["GET"]
    ∃ table index entry, RouteTable.read context.files "t.yaml" = .ok table ∧
      (Registry.empty.loadFile context.files "t.yaml").failure = some (.fault fault) ∧
      (context.check "t.yaml").complaints.head? = some (complaintAbout index entry fault) ∧
      (context.check "t.yaml").exitCode ≠ 0 := by
  intro context fault
  have hfailure : (Registry.empty.loadFile context.files "t.yaml").failure =
      some (.fault fault) := by decide +kernel
  have hcode : (context.check "t.yaml").result = .error (.exit 1) := by decide +kernel
  have hfound : ((RouteTable.read context.files "t.yaml").toOption.bind
      RouteTable.listed?).isSome = true := by decide +kernel
  obtain ⟨entries, hlisted⟩ := Option.isSome_iff_exists.mp hfound
  obtain ⟨table, htable, hentries⟩ := Option.bind_eq_some_iff.mp hlisted
  have hread := Except.toOption_eq_some_iff.mp htable
  obtain ⟨hiff, -, hlists, -⟩ := check_first_fault context "t.yaml" hread
  obtain ⟨before, entry, -, -, -, -, ⟨_, told, hfault, htoldAs, -, hhead⟩ | ⟨-, hcut, -⟩⟩ :=
    hlists entries _ (RouteTable.listed?_eq_some_iff.mp hentries) hfailure
  · cases hfault
    change ToldAs before.length (.nameTaken "a" ["GET"]) told at htoldAs
    cases htoldAs
    refine ⟨table, before.length, entry, hread, hfailure, hhead, ?_⟩
    rw [Ne, hiff, hfailure]
    exact Option.some_ne_none _
  · rw [hcode] at hcut
    cases hcut

/-- A second entry that is no mapping is told in the place of the first, and a number under `routes`
ends checking without a complaint. -/
theorem check_tells_other_place :
    let misplaced := withTable "routes:\n- {name: a, template: /a}\n- 7"
    let number := withTable "routes: 5"
    (Registry.empty.loadFile misplaced.files "t.yaml").failure =
        some (.fault (.configInvalid "routes[1]" "expected a mapping")) ∧
      (misplaced.check "t.yaml").complaints.head? =
        some (complaintAbout 1 (.integer 7) (.configInvalid "routes[0]" "expected a mapping")) ∧
      (Registry.empty.loadFile number.files "t.yaml").failure =
        some (.fault (.configInvalid "routes" "expected a list of route entries")) ∧
      (number.check "t.yaml").result = .error (.failed .wrongShape) := by
  refine ⟨?_, ?_, ?_, ?_⟩ <;> decide +kernel

end ActionContext
end TypedRoutes
