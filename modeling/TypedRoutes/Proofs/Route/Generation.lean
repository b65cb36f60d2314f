import TypedRoutes.Proofs.Parameter.Codec
import TypedRoutes.Proofs.Template.Matching

/-!
# Building and decoding

Building fills a template with texts that spell scalars, and decoding reads scalars of texts. The
two meet in tables of scalars that a table of texts spells: such a table of texts fills every
placeholder, and it is decoded to the scalars.
-/
namespace TypedRoutes

/-- A text spells a scalar of a kind if the scalar is written so and a placeholder matches it. -/
structure Kind.Spells (kind : Kind) (scalar : Scalar) (text : String) : Prop where
  accepts : kind.accepts scalar = true
  encode? : scalar.encode? = some text.toList
  matchesText : kind.matchesText text.toList = true

theorem Kind.Spells.decode? {kind : Kind} {scalar : Scalar} {text : String}
    (h : kind.Spells scalar text) : kind.decode? text = some scalar := by
  rw [← String.ofList_toList (s := text)]
  exact decode?_encode? h.accepts h.encode?

/-- What is read can be put into a path unless it has a sign or is empty. -/
theorem Kind.exists_spells_iff {kind : Kind} {scalar : Scalar} {text : String}
    (h : kind.decode? text = some scalar) :
    (∃ spelled, kind.Spells scalar spelled) ↔ scalar.isMatchable = true := by
  have haccepts := accepts_of_decode? h
  obtain ⟨cs, hcs⟩ := exists_encode?_of_decode? h
  constructor
  · rintro ⟨spelled, hspells⟩
    rw [← matchesText_encode? haccepts hspells.encode?]
    exact hspells.matchesText
  · intro hmatchable
    refine ⟨String.ofList cs, haccepts, ?_, ?_⟩
    · rw [String.toList_ofList, hcs]
    · rw [String.toList_ofList, matchesText_encode? haccepts hcs, hmatchable]

/-! ## Values -/

namespace Value

/-- The scalar that a value holds: of a typed value, what it tags. -/
def content? : Value → Option Scalar
  | typed t => some t.value
  | value => value.toScalar?

variable {value : Value} {kind : Kind} {scalar : Scalar}

theorem of_supplies? (h : value.supplies? kind = some scalar) :
    value.content? = some scalar ∧ kind.accepts scalar = true := by
  unfold supplies? at h
  split at h
  next t =>
    split_ifs at h with hkind
    cases h
    exact ⟨rfl, hkind ▸ t.accepted⟩
  next hplain =>
    obtain ⟨hscalar, haccepts⟩ := Option.filter_eq_some_iff.mp h
    refine ⟨?_, haccepts⟩
    cases value with
    | typed t => exact absurd rfl (hplain t)
    | null | boolean | integer | float | text | list | mapping | handler => exact hscalar

theorem supplies?_ofScalar (h : kind.accepts scalar = true) :
    (ofScalar scalar).supplies? kind = some scalar := by
  cases scalar <;> simp [ofScalar, supplies?, toScalar?, h]

end Value

namespace Route

variable {route : Route} {name : String} {kind : Kind} {value : Value} {text path : String}
variable {values : Named Value} {captures texts : Captures} {arguments : Arguments}

section

variable {source : String} {endpoint : Value} {name : Option String}

theorem parse_of_ofSource (h : ofSource source endpoint name = .ok route) :
    Template.parse source = .ok route.template := by
  obtain ⟨_, hparse, rfl⟩ := Except.map_eq_ok_iff.mp h
  exact hparse

theorem wellFormed_of_ofSource (h : ofSource source endpoint name = .ok route) :
    route.template.WellFormed :=
  Template.wellFormed_of_parse (parse_of_ofSource h)

end

theorem namesMissingFrom_eq_nil_iff {α : Type} {table : Named α} :
    route.namesMissingFrom table = [] ↔
      ∀ name ∈ Named.names route.parameters, ∃ value, table.lookup name = some value := by
  simp only [namesMissingFrom, List.filter_eq_nil_iff, Option.isNone_iff_eq_none]
  exact forall₂_congr fun _ _ => Option.ne_none_iff_exists'

/-! ## Building -/

/-- What is put in the place of a parameter spells the scalar of the supplied value. -/
theorem place_eq_ok_iff (hkind : route.parameters.lookup name = some kind) :
    route.place name value = .ok text ↔
      ∃ scalar, value.supplies? kind = some scalar ∧ kind.Spells scalar text := by
  simp only [place, hkind]
  cases hscalar : value.supplies? kind with
  | none => simp
  | some scalar =>
    have haccepts := (Value.of_supplies? hscalar).2
    cases htext : scalar.encode?.filter kind.matchesText with
    | none =>
      have hnone : ¬kind.Spells scalar text := by
        intro hspells
        simp [hspells.encode?, hspells.matchesText] at htext
      simp [htext, hnone]
    | some cs =>
      obtain ⟨hencode, hmatch⟩ := Option.filter_eq_some_iff.mp htext
      have hspells : kind.Spells scalar text ↔ String.ofList cs = text := by
        constructor
        · intro hspells
          have heq := hspells.encode?
          rw [hencode] at heq
          rw [Option.some.inj heq, String.ofList_toList]
        · rintro rfl
          exact ⟨haccepts, by rw [String.toList_ofList, hencode], by rwa [String.toList_ofList]⟩
      simp [htext, hspells]

theorem lookup_placed_iff (hvalues : (Named.names values).Nodup) :
    (route.placed values).lookup name = some text ↔
      ∃ value, values.lookup name = some value ∧ route.place name value = .ok text := by
  have hnames := (Named.names_filterMap_sublist
    (fun name value => (route.place name value).toOption) values).nodup hvalues
  rw [placed, Named.lookup_eq_some_iff_mem hnames, List.mem_filterMap]
  simp only [Prod.exists, Named.lookup_eq_some_iff_mem hvalues, Option.map_eq_some_iff,
    Except.toOption_eq_some_iff]
  constructor
  · rintro ⟨_, value, hmem, text, htext, hpair⟩
    cases hpair
    exact ⟨value, hmem, htext⟩
  · rintro ⟨value, hmem, htext⟩
    exact ⟨name, value, hmem, text, htext, rfl⟩

theorem path?_build_eq_some_iff :
    (route.build values).path? = some path ↔
      (∀ name ∈ Named.names route.parameters, ∃ text,
        (route.placed values).lookup name = some text) ∧
      route.template.fill (route.placed values) = path := by
  rw [← namesMissingFrom_eq_nil_iff]
  simp only [build, Generation.path?, Except.toOption_eq_some_iff]
  cases route.namesMissingFrom (route.placed values) <;> simp

theorem complaints_eq_nil (h : ∀ name value, (name, value) ∈ values →
    ∃ text, route.place name value = .ok text) : route.complaints values = [] := by
  rw [complaints, List.filterMap_eq_nil_iff]
  rintro ⟨name, value⟩ hmem
  obtain ⟨text, htext⟩ := h name value hmem
  simp [htext]

/-! ## Decoding -/

/-- Whether a scalar is what is read of the text of a parameter. -/
def Reads (captures : Captures) (name : String) (kind : Kind) (scalar : Scalar) : Prop :=
  kind.decode? ((captures.lookup name).getD "") = some scalar

theorem decodeAll_eq_ok_iff (route : Route) {parameters : Named Kind} :
    route.decodeAll captures parameters = .ok arguments ↔
      Named.Align (Reads captures) arguments parameters := by
  induction parameters generalizing arguments with
  | nil => simp [decodeAll, Named.Align, eq_comm]
  | cons parameter rest ih =>
    obtain ⟨name, kind⟩ := parameter
    simp only [decodeAll, decodeParameter]
    simp only [Named.align_cons_iff, Reads]
    cases hscalar : kind.decode? ((captures.lookup name).getD "") with
    | none => simp
    | some scalar =>
      simp only [Except.map_eq_ok_iff, ih, Option.some.injEq]
      constructor
      · rintro ⟨others, hothers, rfl⟩
        exact ⟨scalar, others, rfl, rfl, hothers⟩
      · rintro ⟨_, others, rfl, rfl, hothers⟩
        exact ⟨others, hothers, rfl⟩

theorem decode_eq_ok_iff :
    route.decode captures = .ok arguments ↔
      (∀ name ∈ Named.names route.parameters, ∃ text, captures.lookup name = some text) ∧
      Named.Align (Reads captures) arguments route.parameters := by
  rw [← namesMissingFrom_eq_nil_iff, ← decodeAll_eq_ok_iff route]
  unfold decode
  cases route.namesMissingFrom captures <;> simp

/-! ## Spelled scalars -/

/-- Whether a table of texts spells a scalar under the name of a parameter. -/
def Spelled (texts : Captures) (name : String) (kind : Kind) (scalar : Scalar) : Prop :=
  ∃ text, texts.lookup name = some text ∧ kind.Spells scalar text

theorem fit_of_spelled (hnames : (Named.names route.parameters).Nodup)
    (h : Named.Align (Spelled texts) arguments route.parameters) : texts.Fit route.parameters := by
  intro name kind hmem
  obtain ⟨_, -, text, htext, hspells⟩ := h.exists_lookup hnames hmem
  exact ⟨text, htext, hspells.matchesText⟩

theorem decode_of_spelled (hnames : (Named.names route.parameters).Nodup)
    (h : Named.Align (Spelled texts) arguments route.parameters) :
    route.decode (texts.select route.parameters) = .ok arguments := by
  rw [decode_eq_ok_iff]
  refine ⟨fun name hname => ⟨_, Captures.lookup_select hname⟩, ?_⟩
  apply Named.align_of_lookup hnames h.names_eq
  intro name kind hmem
  obtain ⟨scalar, hscalar, text, htext, hspells⟩ := h.exists_lookup hnames hmem
  refine ⟨scalar, hscalar, ?_⟩
  rw [Reads, Captures.lookup_select (Named.mem_names_iff.mpr ⟨kind, hmem⟩), htext]
  exact hspells.decode?

end Route
end TypedRoutes
