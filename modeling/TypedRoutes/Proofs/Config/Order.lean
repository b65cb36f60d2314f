import TypedRoutes.Proofs.Config.SameData
import TypedRoutes.Proofs.Config.Sharing

/-!
# The order of variables

Values that are put at paths apart come to the same data whichever is put first, up to the order of
the keys, and none gets in the way of another. Data here are those of a store, in which a document
can make one mapping stand in several places: then two paths can lead to one entry, so that it does
not do for paths to differ. Where every mapping stands in one place, paths are apart exactly if none
of them is another or a part of it.
-/
namespace TypedRoutes

namespace Config

/-- Whether no path of some texts is that of another or leads through its end. -/
def AreApart (texts : List (List String × String)) : Prop :=
  texts.Pairwise fun text other => Apart text.1 other.1

instance (texts : List (List String × String)) : Decidable (AreApart texts) :=
  inferInstanceAs (Decidable (texts.Pairwise fun text other => Apart text.1 other.1))

theorem denoted_perm {environment permuted : Named String} (envPrefix : String)
    (hperm : environment.Perm permuted) :
    (denoted envPrefix environment).Perm (denoted envPrefix permuted) :=
  hperm.filterMap _

end Config

namespace Store

variable {store other next : Store} {path more last names : List String} {number inner : Nat}
variable {name : String} {place stop : Place}
variable {text : List String × String} {texts others : List (List String × String)}

/-! ## Mappings that stand in one place -/

/-- Whether no mapping with a number is found in two places, and the one that the others are reached
from in none. -/
structure HoldsOnce (store : Store) : Prop where
  root : ∀ number name, store.get? number name ≠ some (.shared 0)
  unique : ∀ {number number' name name' inner}, store.get? number name = some (.shared inner) →
    store.get? number' name' = some (.shared inner) → number = number' ∧ name = name'

theorem holdsOnce_ofEntries (entries : Entries) : (ofEntries entries).HoldsOnce where
  root number name := get?_ofEntries_ne_shared entries number 0 name
  unique hname _ := absurd hname (get?_ofEntries_ne_shared entries _ _ _)

/-- Whether names lead to the mapping with a number. -/
inductive Reaches (store : Store) : List String → Nat → Prop
  | root : Reaches store [] 0
  | onward {names : List String} {number inner : Nat} {name : String}
    (h : Reaches store names number) (hname : store.get? number name = some (.shared inner)) :
    Reaches store (names ++ [name]) inner

theorem Reaches.unique (hstore : store.HoldsOnce) (h : store.Reaches names number)
    (h' : store.Reaches more number) : names = more := by
  induction h generalizing more with
  | root =>
    cases h' with
    | root => rfl
    | onward _ hname => exact absurd hname (hstore.root _ _)
  | onward _ hname ih =>
    cases h' with
    | root => exact absurd hname (hstore.root _ _)
    | onward h' hname' =>
      obtain ⟨rfl, rfl⟩ := hstore.unique hname hname'
      rw [ih h']

theorem Reaches.of_onward? {rest : List String} (h : store.Reaches names number)
    (honward : store.onward? number name rest = some inner) :
    store.Reaches (names ++ [name]) inner :=
  h.onward (onward?_eq_some_iff.mp honward).2

/-- Names lead from the mapping where a path starts to the mapping where it ends. -/
theorem exists_reaches_locate (h : store.Reaches names number) (path : List String) :
    ∃ ahead, store.Reaches (names ++ ahead) (store.locate number path).number ∧
      path = ahead ++ (store.locate number path).path := by
  induction path generalizing names number with
  | nil => exact ⟨[], by rwa [List.append_nil], rfl⟩
  | cons name rest ih =>
    rw [locate]
    split
    next inner honward =>
      obtain ⟨ahead, hreaches, hrest⟩ := ih (h.of_onward? honward)
      rw [List.append_assoc] at hreaches
      exact ⟨name :: ahead, hreaches, congrArg (name :: ·) hrest⟩
    next => exact ⟨[], by rwa [List.append_nil], rfl⟩

theorem exists_reaches_of_mem_places (h : store.Reaches names number)
    (hstop : stop ∈ store.places number path) :
    ∃ ahead, store.Reaches (names ++ ahead) stop.number ∧ ahead ++ stop.path <+: path := by
  induction path generalizing names number with
  | nil => cases hstop
  | cons name rest ih =>
    rw [places] at hstop
    split at hstop
    next inner honward =>
      rcases List.mem_cons.mp hstop with rfl | hstop
      · exact ⟨[], by rwa [List.append_nil], List.prefix_append [name] rest⟩
      · obtain ⟨ahead, hreaches, hrest⟩ := ih (h.of_onward? honward) hstop
        rw [List.append_assoc] at hreaches
        exact ⟨name :: ahead, hreaches, (List.prefix_cons_inj name).mpr hrest⟩
    next =>
      obtain rfl := List.mem_singleton.mp hstop
      exact ⟨[], by rwa [List.append_nil], List.prefix_rfl⟩

theorem HoldsOnce.prefix_of_leadsThrough (hstore : store.HoldsOnce)
    (h : store.LeadsThrough more (store.locate 0 path)) : path <+: more := by
  obtain ⟨stop, hstop, hnumber, hpath⟩ := h
  obtain ⟨names, hnames, hlocate⟩ := exists_reaches_locate .root path
  obtain ⟨ahead, hahead, hmore⟩ := exists_reaches_of_mem_places .root hstop
  rw [hnumber] at hnames
  obtain rfl : names = ahead := hnames.unique hstore hahead
  rw [hlocate]
  exact ((List.prefix_append_right_inj names).mpr hpath).trans hmore

/-- A path leads through the place of every path that it begins with. -/
theorem leadsThrough_of_prefix (hpath : path ≠ []) (h : path <+: more) (number : Nat) :
    ∃ stop ∈ store.places number more, (store.locate number path).IsOnWayTo stop := by
  induction path generalizing more number with
  | nil => exact absurd rfl hpath
  | cons name rest ih =>
    obtain ⟨last, rfl⟩ := h
    rw [List.cons_append, locate, places]
    cases honward : store.onward? number name rest with
    | some inner =>
      obtain ⟨hrest, hget⟩ := onward?_eq_some_iff.mp honward
      have hmore : store.onward? number name (rest ++ last) = some inner :=
        onward?_eq_some_iff.mpr ⟨List.append_ne_nil_of_left_ne_nil hrest last, hget⟩
      rw [hmore]
      obtain ⟨stop, hstop, hway⟩ := ih hrest (List.prefix_append rest last) inner
      exact ⟨stop, List.mem_cons_of_mem _ hstop, hway⟩
    | none =>
      cases hmore : store.onward? number name (rest ++ last) with
      | some inner =>
        -- The mapping would be gone on in, so the path has to end here.
        obtain rfl : rest = [] := by
          by_contra hrest
          rw [onward?_eq_some_iff.mpr ⟨hrest, (onward?_eq_some_iff.mp hmore).2⟩] at honward
          cases honward
        exact ⟨_, List.mem_cons_self, rfl, List.prefix_rfl⟩
      | none => exact ⟨_, List.mem_cons_self, rfl, List.prefix_append (name :: rest) last⟩

/-- Where every mapping stands in one place, paths alone decide what is apart. -/
theorem HoldsOnce.apart_iff (hstore : store.HoldsOnce) (hpath : path ≠ []) (hmore : more ≠ []) :
    store.Apart path more ↔ TypedRoutes.Apart path more :=
  and_congr
    (not_congr ⟨hstore.prefix_of_leadsThrough, fun h => leadsThrough_of_prefix hpath h 0⟩)
    (not_congr ⟨hstore.prefix_of_leadsThrough, fun h => leadsThrough_of_prefix hmore h 0⟩)

/-! ## One text after another -/

/-- Whether no path of some texts leads through the place of another, or ends there. -/
def AreApart (store : Store) (texts : List (List String × String)) : Prop :=
  texts.Pairwise fun text other => store.Apart text.1 other.1

instance (store : Store) (texts : List (List String × String)) : Decidable (store.AreApart texts) :=
  inferInstanceAs (Decidable (texts.Pairwise fun text other => store.Apart text.1 other.1))

theorem AreApart.perm (h : store.AreApart texts) (hperm : texts.Perm others) :
    store.AreApart others :=
  List.Pairwise.perm h hperm Apart.symm

theorem HoldsOnce.areApart_iff (hstore : store.HoldsOnce) (hpaths : ∀ text ∈ texts, text.1 ≠ []) :
    store.AreApart texts ↔ Config.AreApart texts := by
  refine List.Pairwise.iff_of_mem fun {text other} htext hother => ?_
  exact hstore.apart_iff (hpaths text htext) (hpaths other hother)

/-- Whether the text of a variable is taken for a value that nothing but mappings stands in the way
of. -/
def Takes (store : Store) (text : List String × String) : Prop :=
  (∃ value, Value.guess text.2 = .ok value) ∧ store.admits (store.locate 0 text.1) = true

/-- Puts texts in their places. -/
def assignEach (store : Store) (texts : List (List String × String)) : Except Failure Store :=
  texts.foldlM (fun store text => store.assign text.2 text.1) store

theorem assignEach_cons_eq_ok_iff (htext : text.1 ≠ []) :
    store.assignEach (text :: texts) = .ok next ↔
      ∃ value, Value.guess text.2 = .ok value ∧ store.admits (store.locate 0 text.1) = true ∧
        (store.put value (store.locate 0 text.1)).assignEach texts = .ok next := by
  have hcons : store.assignEach (text :: texts) =
      store.assign text.2 text.1 >>= fun next => next.assignEach texts := List.foldlM_cons
  rw [hcons, Except.bind_eq_ok_iff]
  constructor
  · rintro ⟨reached, hreached, h⟩
    obtain ⟨value, hguess, hadmits, rfl⟩ := (assign_eq_ok_iff htext).mp hreached
    exact ⟨value, hguess, hadmits, h⟩
  · rintro ⟨value, hguess, hadmits, h⟩
    exact ⟨_, (assign_eq_ok_iff htext).mpr ⟨value, hguess, hadmits, rfl⟩, h⟩

/-! ## What a text leaves as it was -/

variable {value value' : Value}

theorem Apart.locate_put (h : store.Apart path more) (value : Value) :
    (store.put value (store.locate 0 path)).locate 0 more = store.locate 0 more :=
  Store.locate_put (isSettled_locate store 0 path)
    (fun stop hstop hway => h.1 ⟨stop, hstop, hway⟩) value

theorem Apart.places_put (h : store.Apart path more) (value : Value) :
    (store.put value (store.locate 0 path)).places 0 more = store.places 0 more :=
  Store.places_put (isSettled_locate store 0 path)
    (fun stop hstop hway => h.1 ⟨stop, hstop, hway⟩) value

theorem Apart.put (h : store.Apart more last) (hmore : store.Apart path more)
    (hlast : store.Apart path last) (value : Value) :
    (store.put value (store.locate 0 path)).Apart more last := by
  rw [Apart, LeadsThrough, LeadsThrough, hmore.locate_put, hlast.locate_put, hmore.places_put,
    hlast.places_put]
  exact h

theorem AreApart.put (h : store.AreApart texts)
    (hpath : ∀ text ∈ texts, store.Apart path text.1) (value : Value) :
    (store.put value (store.locate 0 path)).AreApart texts :=
  List.Pairwise.imp_of_mem
    (fun htext hother hapart => hapart.put (hpath _ htext) (hpath _ hother) value) h

theorem Apart.admits_put (h : store.Apart path more) (hpath : path ≠ []) (hmore : more ≠ [])
    (hadmits : store.admits (store.locate 0 path) = true) (value : Value) :
    (store.put value (store.locate 0 path)).admits (store.locate 0 more) =
      store.admits (store.locate 0 more) :=
  Store.admits_put (h.locate hpath hmore) hadmits value

theorem Apart.takes_put_iff (h : store.Apart path text.1) (hpath : path ≠ []) (htext : text.1 ≠ [])
    (hadmits : store.admits (store.locate 0 path) = true) (value : Value) :
    (store.put value (store.locate 0 path)).Takes text ↔ store.Takes text := by
  rw [Takes, Takes, h.locate_put, h.admits_put hpath htext hadmits]

/-- Texts at paths apart find their places exactly if each of them alone does. -/
theorem exists_assignEach_eq_ok_iff (hpaths : ∀ text ∈ texts, text.1 ≠ [])
    (hapart : store.AreApart texts) :
    (∃ next, store.assignEach texts = .ok next) ↔ ∀ text ∈ texts, store.Takes text := by
  induction texts generalizing store with
  | nil => exact iff_of_true ⟨store, rfl⟩ (by simp)
  | cons text texts ih =>
    obtain ⟨htext, hrest⟩ := List.forall_mem_cons.mp hpaths
    obtain ⟨hfirst, hothers⟩ := List.pairwise_cons.mp hapart
    have htakes {value : Value} (hadmits : store.admits (store.locate 0 text.1) = true) :
        (∀ other ∈ texts, (store.put value (store.locate 0 text.1)).Takes other) ↔
          ∀ other ∈ texts, store.Takes other :=
      forall₂_congr fun other hother =>
        (hfirst other hother).takes_put_iff htext (hrest other hother) hadmits value
    have hput (value : Value) := AreApart.put hothers hfirst value
    simp only [assignEach_cons_eq_ok_iff htext, List.forall_mem_cons]
    constructor
    · rintro ⟨next, value, hguess, hadmits, hnext⟩
      exact ⟨⟨⟨value, hguess⟩, hadmits⟩,
        (htakes hadmits).mp ((ih hrest (hput value)).mp ⟨next, hnext⟩)⟩
    · rintro ⟨⟨⟨value, hguess⟩, hadmits⟩, hall⟩
      obtain ⟨next, hnext⟩ := (ih hrest (hput value)).mpr ((htakes hadmits).mpr hall)
      exact ⟨next, value, hguess, hadmits, hnext⟩

theorem exists_toEntries_assignEach (hpaths : ∀ text ∈ texts, text.1 ≠ [])
    (h : ∃ entries, store.toEntries = .ok entries) (hnext : store.assignEach texts = .ok next) :
    ∃ entries, next.toEntries = .ok entries := by
  induction texts generalizing store with
  | nil =>
    cases hnext
    exact h
  | cons text texts ih =>
    obtain ⟨htext, hrest⟩ := List.forall_mem_cons.mp hpaths
    obtain ⟨value, -, -, hnext⟩ := (assignEach_cons_eq_ok_iff htext).mp hnext
    exact ih hrest (exists_toEntries_put value _ h) hnext

/-! ## In another order -/

theorem exists_assignEach_sameData (hpaths : ∀ text ∈ texts, text.1 ≠ [])
    (h : store.SameData other) (hnext : store.assignEach texts = .ok next) :
    ∃ last, other.assignEach texts = .ok last ∧ next.SameData last := by
  induction texts generalizing store other with
  | nil =>
    cases hnext
    exact ⟨other, rfl, h⟩
  | cons text texts ih =>
    obtain ⟨htext, hrest⟩ := List.forall_mem_cons.mp hpaths
    obtain ⟨value, hguess, hadmits, hnext⟩ := (assignEach_cons_eq_ok_iff htext).mp hnext
    obtain ⟨last, hlast, hsame⟩ := ih hrest (h.put value _) hnext
    rw [h.admits] at hadmits
    rw [h.locate] at hadmits hlast
    exact ⟨last, (assignEach_cons_eq_ok_iff htext).mpr ⟨value, hguess, hadmits, hlast⟩, hsame⟩

/-- Texts come to the same data in another order. -/
theorem exists_assignEach_of_perm (hperm : texts.Perm others)
    (hpaths : ∀ text ∈ texts, text.1 ≠ []) (hapart : store.AreApart texts)
    (h : store.SameData other) (hnext : store.assignEach texts = .ok next) :
    ∃ last, other.assignEach others = .ok last ∧ next.SameData last := by
  induction hperm generalizing store other next with
  | nil => exact exists_assignEach_sameData hpaths h hnext
  | @cons text texts others hperm ih =>
    obtain ⟨htext, hrest⟩ := List.forall_mem_cons.mp hpaths
    obtain ⟨hfirst, hothers⟩ := List.pairwise_cons.mp hapart
    obtain ⟨value, hguess, hadmits, hnext⟩ := (assignEach_cons_eq_ok_iff htext).mp hnext
    obtain ⟨last, hlast, hsame⟩ :=
      ih hrest (AreApart.put hothers hfirst value) (h.put value _) hnext
    rw [h.admits] at hadmits
    rw [h.locate] at hadmits hlast
    exact ⟨last, (assignEach_cons_eq_ok_iff htext).mpr ⟨value, hguess, hadmits, hlast⟩, hsame⟩
  | swap first second texts =>
    obtain ⟨hsecond, hpaths⟩ := List.forall_mem_cons.mp hpaths
    obtain ⟨hfirst, hrest⟩ := List.forall_mem_cons.mp hpaths
    have happart := (List.pairwise_cons.mp hapart).1 first List.mem_cons_self
    obtain ⟨value, hvalue, hadmits, hnext⟩ := (assignEach_cons_eq_ok_iff hsecond).mp hnext
    obtain ⟨value', hvalue', hadmits', hnext⟩ := (assignEach_cons_eq_ok_iff hfirst).mp hnext
    rw [happart.locate_put] at hadmits' hnext
    rw [happart.admits_put hsecond hfirst hadmits] at hadmits'
    -- The same two steps the other way round, first on the same store.
    have hboth := sameData_put_comm (happart.locate hsecond hfirst) store value value'
    obtain ⟨between, hbetween, hsame⟩ := exists_assignEach_sameData hrest hboth hnext
    have hswapped : store.assignEach (first :: second :: texts) = .ok between := by
      refine (assignEach_cons_eq_ok_iff hfirst).mpr ⟨value', hvalue', hadmits',
        (assignEach_cons_eq_ok_iff hsecond).mpr ⟨value, hvalue, ?_, ?_⟩⟩
      · rw [happart.symm.locate_put, happart.symm.admits_put hfirst hsecond hadmits']
        exact hadmits
      · rw [happart.symm.locate_put]
        exact hbetween
    obtain ⟨last, hlast, hsame'⟩ := exists_assignEach_sameData
      (List.forall_mem_cons.mpr ⟨hfirst, List.forall_mem_cons.mpr ⟨hsecond, hrest⟩⟩) h hswapped
    exact ⟨last, hlast, hsame.trans hsame'⟩
  | @trans texts between others hfirst _ ih ih' =>
    obtain ⟨middle, hmiddle, hsame⟩ := ih hpaths hapart (.refl store) hnext
    obtain ⟨last, hlast, hsame'⟩ := ih' (fun text htext => hpaths text (hfirst.mem_iff.mpr htext))
      (hapart.perm hfirst) h hmiddle
    exact ⟨last, hlast, hsame.trans hsame'⟩

end Store

namespace Config

open Value (SameData)

variable {environment permuted : Named String} {envPrefix : String} {store : Store}

theorem shared_assignAll (envPrefix : String) (given : Named String) (store : Store) :
    shared.assignAll envPrefix store given = store.assignEach (denoted envPrefix given) :=
  assignAll_eq_foldlM shared envPrefix given store

theorem exists_assignAll_eq_error_iff (hapart : store.AreApart (denoted envPrefix environment)) :
    (∃ failure, shared.assignAll envPrefix store environment = .error failure) ↔
      ∃ text ∈ denoted envPrefix environment, ¬store.Takes text := by
  have hplaces := Store.exists_assignEach_eq_ok_iff (fun _ => ne_nil_of_mem_denoted) hapart
  rw [shared_assignAll]
  cases hresult : store.assignEach (denoted envPrefix environment) with
  | error failure => simpa [hresult] using hplaces
  | ok next => simpa [hresult] using hplaces

/-- Variables whose paths are apart can be put in their places in any order: they find them all or
fail, and what they come to is the same at every path. They fail exactly if one of them alone would.
Where every mapping stands in one place, paths are apart if none is another or a part of it. -/
theorem assignAll_of_perm (hperm : environment.Perm permuted) (envPrefix : String) (store : Store) :
    let texts := denoted envPrefix environment
    (store.HoldsOnce → (store.AreApart texts ↔ AreApart texts)) ∧
    (store.AreApart texts →
      ((∃ failure, shared.assignAll envPrefix store environment = .error failure) ↔
        ∃ failure, shared.assignAll envPrefix store permuted = .error failure) ∧
      ((∃ failure, shared.assignAll envPrefix store environment = .error failure) ↔
        ∃ text ∈ texts, ¬store.Takes text) ∧
      ∀ next last, shared.assignAll envPrefix store environment = .ok next →
        shared.assignAll envPrefix store permuted = .ok last →
          next.SameData last ∧
          (∀ path, Option.Rel Held.SameData (next.at? 0 (pathOf path)) (last.at? 0 (pathOf path))) ∧
          ((∃ entries, store.toEntries = .ok entries) →
            ∃ data other, next.toEntries = .ok data ∧ last.toEntries = .ok other ∧
              (Value.mapping data).SameData (.mapping other) ∧
              ∀ path default, (get ⟨data⟩ path default).SameData (get ⟨other⟩ path default))) := by
  intro texts
  have hdenoted := denoted_perm envPrefix hperm
  refine ⟨fun hstore => hstore.areApart_iff fun _ => ne_nil_of_mem_denoted, fun hapart => ?_⟩
  refine ⟨?_, exists_assignAll_eq_error_iff hapart, ?_⟩
  · rw [exists_assignAll_eq_error_iff hapart, exists_assignAll_eq_error_iff (hapart.perm hdenoted)]
    simp only [hdenoted.mem_iff]
  · intro next last hnext hlast
    rw [shared_assignAll] at hnext hlast
    obtain ⟨final, hfinal, hsame⟩ := Store.exists_assignEach_of_perm hdenoted
      (fun _ => ne_nil_of_mem_denoted) hapart (.refl store) hnext
    cases hlast.symm.trans hfinal
    refine ⟨hsame, fun path => hsame.at? 0 (pathOf path), fun hvalues => ?_⟩
    obtain ⟨data, hdata⟩ :=
      Store.exists_toEntries_assignEach (fun _ => ne_nil_of_mem_denoted) hvalues hnext
    obtain ⟨other, hother⟩ :=
      Store.exists_toEntries_assignEach (fun _ => ne_nil_of_mem_denoted) hvalues hlast
    have hentries := hsame.toEntries hdata hother
    exact ⟨data, other, hdata, hother, hentries, sameData_get hentries⟩

/-- A mapping with one entry that stands in two places. -/
def twofold : Store where
  size := 2
  entries
    | 0 => [(.text "a", .shared 1), (.text "b", .shared 1)]
    | 1 => [(.text "k", .plain .null)]
    | _ => []

/-- Variables for two entries of the mapping, by its two names. Both are seen under both. In a
configuration without data the paths are apart as well. -/
theorem assignAll_of_perm_twofold :
    let environment := [("PW_A__K", "yes"), ("PATH", "/"), ("PW_B__L", "no")]
    let permuted := [("PW_B__L", "no"), ("PATH", "/"), ("PW_A__K", "yes")]
    let both : Value := .mapping [(.text "k", .boolean true), (.text "l", .boolean false)]
    ∃ next last, environment.Perm permuted ∧ twofold.AreApart (denoted "PW_" environment) ∧
      shared.assignAll "PW_" twofold environment = .ok next ∧
      shared.assignAll "PW_" twofold permuted = .ok last ∧ next.SameData last ∧
      ∃ other, next.toEntries = .ok [(.text "a", both), (.text "b", both)] ∧
        last.toEntries = .ok other ∧
        (Value.mapping [(.text "a", both), (.text "b", both)]).SameData (.mapping other) ∧
        (Store.ofEntries []).HoldsOnce ∧
        (Store.ofEntries []).AreApart (denoted "PW_" environment) := by
  intro environment permuted both
  have hyes : Value.guess "yes" = .ok (.boolean true) :=
    Value.guess_of_truthWord? (by decide +kernel)
  have hno : Value.guess "no" = .ok (.boolean false) :=
    Value.guess_of_truthWord? (by decide +kernel)
  have hdenoted : denoted "PW_" environment = [(["a", "k"], "yes"), (["b", "l"], "no")] := by
    decide +kernel
  have hpermuted : denoted "PW_" permuted = [(["b", "l"], "no"), (["a", "k"], "yes")] := by
    decide +kernel
  have hpath (name next : String) : [name, next] ≠ [] := List.cons_ne_nil _ _
  have hnext : shared.assignAll "PW_" twofold environment =
      .ok ((twofold.put (.boolean true) ⟨1, ["k"]⟩).put (.boolean false) ⟨1, ["l"]⟩) := by
    rw [shared_assignAll, hdenoted]
    exact (Store.assignEach_cons_eq_ok_iff (hpath _ _)).mpr ⟨_, hyes, rfl,
      (Store.assignEach_cons_eq_ok_iff (hpath _ _)).mpr ⟨_, hno, rfl, rfl⟩⟩
  have hlast : shared.assignAll "PW_" twofold permuted =
      .ok ((twofold.put (.boolean false) ⟨1, ["l"]⟩).put (.boolean true) ⟨1, ["k"]⟩) := by
    rw [shared_assignAll, hpermuted]
    exact (Store.assignEach_cons_eq_ok_iff (hpath _ _)).mpr ⟨_, hno, rfl,
      (Store.assignEach_cons_eq_ok_iff (hpath _ _)).mpr ⟨_, hyes, rfl, rfl⟩⟩
  have hperm : environment.Perm permuted := by decide
  have hapart : twofold.AreApart (denoted "PW_" environment) := by
    rw [hdenoted]
    decide
  have hvalues : twofold.toEntries = .ok [(.text "a", .mapping [(.text "k", .null)]),
      (.text "b", .mapping [(.text "k", .null)])] := rfl
  obtain ⟨hsame, -, hentries⟩ :=
    ((assignAll_of_perm hperm "PW_" twofold).2 hapart).2.2 _ _ hnext hlast
  obtain ⟨data, other, hdata, hother, hdataSame, -⟩ := hentries ⟨_, hvalues⟩
  cases hdata
  have honce := Store.holdsOnce_ofEntries []
  have hpaths : AreApart (denoted "PW_" environment) := by
    rw [hdenoted]
    decide
  exact ⟨_, _, hperm, hapart, hnext, hlast, hsame, other, rfl, hother, hdataSame, honce,
    ((assignAll_of_perm hperm "PW_" (.ofEntries [])).1 honce).mpr hpaths⟩

theorem toInt?_eq_of_sameData {value other : Value} (h : value.SameData other) :
    value.toInt? = other.toInt? := by
  cases h <;> rfl

/-- A document with a mapping that stands in two places. By its two names two paths lead to the same
entry, although neither is a part of the other, and the variable that comes last decides. -/
theorem loadShared_of_perm_alias :
    let tree := FileTree.ofFiles [("a.yaml", "a: &x \x7bk: 0\x7d\nb: *x\n")]
    let environment := [("PW_A__K", "1"), ("PW_B__K", "2")]
    let permuted := [("PW_B__K", "2"), ("PW_A__K", "1")]
    environment.Perm permuted ∧ AreApart (denoted "PW_" environment) ∧
      ∃ config other,
        loadShared tree { patterns := ["a.yaml"], environment := environment } = .ok config ∧
        loadShared tree { patterns := ["a.yaml"], environment := permuted } = .ok other ∧
        ¬(config.get "a.k" .null).SameData (other.get "a.k" .null) := by
  intro tree environment permuted
  let result (environment : Named String) :=
    (loadShared tree { patterns := ["a.yaml"], environment := environment }).toOption
  have hnumbers (given : Named String) (n : Int)
      (h : (result given).bind (fun config => (config.get "a.k" .null).toInt?) = some n) :
      ∃ config, loadShared tree { patterns := ["a.yaml"], environment := given } = .ok config ∧
        (config.get "a.k" .null).toInt? = some n := by
    obtain ⟨config, hconfig, hn⟩ := Option.bind_eq_some_iff.mp h
    exact ⟨config, Except.toOption_eq_some_iff.mp hconfig, hn⟩
  obtain ⟨config, hconfig, htwo⟩ := hnumbers environment 2 (by decide +kernel)
  obtain ⟨other, hother, hone⟩ := hnumbers permuted 1 (by decide +kernel)
  refine ⟨by decide, by decide +kernel, config, other, hconfig, hother, fun hsame => ?_⟩
  have hequal := toInt?_eq_of_sameData hsame
  rw [htwo, hone] at hequal
  cases hequal

end Config
end TypedRoutes
