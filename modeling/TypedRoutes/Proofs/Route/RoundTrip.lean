import TypedRoutes.Proofs.Route.Generation

/-!
# The round trip of a route

A path that is built from values is matched by its template and decoded to the values it was built
from. A path that is decoded can be built again, in a canonical form that building does not change.
-/
namespace TypedRoutes

/-- Arguments as values to build a path from. -/
def Arguments.values (arguments : Arguments) : Named Value :=
  arguments.map fun (name, scalar) => (name, Value.ofScalar scalar)

theorem Arguments.names_values (arguments : Arguments) :
    Named.names arguments.values = Named.names arguments := by
  simp [Arguments.values, Named.names, Function.comp_def]

namespace Route

/-- What the values, the captured texts and the arguments of a route have in common: every parameter
has a value, the text of the scalar that this holds, put in its place and captured there, and that
scalar itself. -/
structure RoundTrip (route : Route) (values : Named Value) (captures : Captures)
    (arguments : Arguments) : Prop where
  captures_names : Named.names captures = Named.names route.parameters
  arguments_names : Named.names arguments = Named.names route.parameters
  supplied : ∀ name ∈ Named.names route.parameters, ∃ value scalar text,
    values.lookup name = some value ∧ value.content? = some scalar ∧
    scalar.encode? = some text.toList ∧ (route.placed values).lookup name = some text ∧
    captures.lookup name = some text ∧ arguments.lookup name = some scalar

/-- The path that is built from what is decoded of a path. -/
def canonicalPath? (route : Route) (path : String) : Option String :=
  (route.match? path).bind fun found =>
    found.decode.toOption.bind fun arguments => (route.build arguments.values).path?

variable {route : Route} {values : Named Value} {captures texts : Captures} {arguments : Arguments}
variable {source path : String} {endpoint : Value} {name : Option String}

/-! ## Building first -/

/-- Whether a scalar is held by the value of a parameter and spelled by its text. -/
def Supplied (values : Named Value) (texts : Captures) (name : String) (kind : Kind)
    (scalar : Scalar) : Prop :=
  ∃ value text, values.lookup name = some value ∧ value.content? = some scalar ∧
    texts.lookup name = some text ∧ kind.Spells scalar text

theorem exists_supplied (hnames : (Named.names route.parameters).Nodup)
    (hvalues : (Named.names values).Nodup) (hbuild : (route.build values).path? = some path) :
    ∃ arguments, Named.Align (Supplied values (route.placed values)) arguments
      route.parameters := by
  apply Named.exists_align
  intro name kind hmem
  obtain ⟨text, htext⟩ :=
    (path?_build_eq_some_iff.mp hbuild).1 name (Named.mem_names_iff.mpr ⟨kind, hmem⟩)
  obtain ⟨value, hvalue, hplace⟩ := (lookup_placed_iff hvalues).mp htext
  have hkind := (Named.lookup_eq_some_iff_mem hnames).mpr hmem
  obtain ⟨scalar, hscalar, hspells⟩ := (place_eq_ok_iff hkind).mp hplace
  exact ⟨scalar, value, text, hvalue, (Value.of_supplies? hscalar).1, htext, hspells⟩

theorem spelled_of_supplied {parameters : Named Kind}
    (h : Named.Align (Supplied values texts) arguments parameters) :
    Named.Align (Spelled texts) arguments parameters := by
  refine List.Forall₂.imp ?_ h
  rintro _ _ ⟨hname, _, text, -, -, htext, hspells⟩
  exact ⟨hname, text, htext, hspells⟩

theorem roundTrip_of_supplied (hnames : (Named.names route.parameters).Nodup)
    (h : Named.Align (Supplied values (route.placed values)) arguments route.parameters) :
    route.RoundTrip values ((route.placed values).select route.parameters) arguments where
  captures_names := Captures.names_select
  arguments_names := h.names_eq
  supplied := by
    intro name hname
    obtain ⟨kind, hmem⟩ := Named.mem_names_iff.mp hname
    obtain ⟨scalar, hscalar, value, text, hvalue, hcontent, htext, hspells⟩ :=
      h.exists_lookup hnames hmem
    refine ⟨value, scalar, text, hvalue, hcontent, hspells.encode?, htext, ?_, hscalar⟩
    rw [Captures.lookup_select hname, htext]
    rfl

/-- Whatever path is built from values, its template matches it, the captured texts are those that
were put in the places of the parameters, and they are decoded to the supplied scalars. -/
theorem decode_match_build (hroute : ofSource source endpoint name = .ok route)
    (hvalues : (Named.names values).Nodup) (hbuild : (route.build values).path? = some path) :
    ∃ captures arguments, route.template.match? path = some captures ∧
      route.template.fill captures = path ∧ route.decode captures = .ok arguments ∧
      route.RoundTrip values captures arguments := by
  have ht := wellFormed_of_ofSource hroute
  obtain ⟨arguments, hsupplied⟩ := exists_supplied ht.names_nodup hvalues hbuild
  have hspelled := spelled_of_supplied hsupplied
  have hfill := (path?_build_eq_some_iff.mp hbuild).2
  refine ⟨_, arguments, ?_, ?_, decode_of_spelled ht.names_nodup hspelled,
    roundTrip_of_supplied ht.names_nodup hsupplied⟩
  · rw [← hfill]
    exact Template.match?_fill ht (fit_of_spelled ht.names_nodup hspelled)
  · rw [parameters, Template.fill_select, hfill]

/-- A route of users by number and tag. -/
def tagged : Route :=
  ⟨"user", ⟨[.literal "", .literal "u", .parameter .integer "id", .parameter .text "tag"], true⟩,
    .null⟩

theorem ofSource_tagged :
    ofSource "/u/\x7bi:id\x7d/\x7bs:tag\x7d/" .null (some "user") = .ok tagged :=
  rfl

theorem decode_match_build_tagged :
    ∃ captures arguments, tagged.template.match? "/u/42/%C3%A9%2Fx/" = some captures ∧
      tagged.template.fill captures = "/u/42/%C3%A9%2Fx/" ∧
      tagged.decode captures = .ok arguments ∧
      tagged.RoundTrip [("tag", .text "é/x"), ("id", .typed ⟨.integer, .integer 42, rfl⟩)]
        captures arguments :=
  decode_match_build ofSource_tagged (by decide) (by decide +kernel)

/-! ## Decoding first -/

theorem lookup_values {name : String} {scalar : Scalar} (h : arguments.lookup name = some scalar) :
    arguments.values.lookup name = some (Value.ofScalar scalar) := by
  induction arguments with
  | nil => cases h
  | cons entry rest ih =>
    obtain ⟨n, s⟩ := entry
    simp only [Arguments.values, List.map_cons, List.lookup_cons] at h ⊢
    split at h
    · exact congrArg (some ∘ Value.ofScalar) (Option.some.inj h)
    · exact ih h

/-- Each scalar that is decoded of a matched path can be put in the place it was read from. -/
theorem exists_place_of_decode (ht : route.template.WellFormed)
    (hmatch : route.template.match? path = some captures)
    (hdecode : route.decode captures = .ok arguments) {name : String} {kind : Kind}
    (hmem : (name, kind) ∈ route.parameters) :
    ∃ scalar text, arguments.lookup name = some scalar ∧ kind.Spells scalar text ∧
      route.place name (Value.ofScalar scalar) = .ok text := by
  have hkind := (Named.lookup_eq_some_iff_mem ht.names_nodup).mpr hmem
  obtain ⟨text, htext, hmatched⟩ :=
    (Template.align_of_match? hmatch).exists_lookup ht.names_nodup hmem
  obtain ⟨scalar, hscalar, hread⟩ :=
    (decode_eq_ok_iff.mp hdecode).2.exists_lookup ht.names_nodup hmem
  rw [Reads, htext, Option.getD_some, ← String.ofList_toList (s := text)] at hread
  obtain ⟨written, hwritten, hmatches⟩ := Kind.encode?_of_matchesText hmatched hread
  have hspells : kind.Spells scalar (String.ofList written) :=
    ⟨Kind.accepts_of_decode? hread, by rw [String.toList_ofList, hwritten],
      by rwa [String.toList_ofList]⟩
  refine ⟨scalar, _, hscalar, hspells, (place_eq_ok_iff hkind).mpr ⟨scalar, ?_, hspells⟩⟩
  exact Value.supplies?_ofScalar hspells.accepts

theorem spelled_of_decode (ht : route.template.WellFormed)
    (hmatch : route.template.match? path = some captures)
    (hdecode : route.decode captures = .ok arguments) :
    Named.Align (Spelled (route.placed arguments.values)) arguments route.parameters := by
  have hnames := (decode_eq_ok_iff.mp hdecode).2.names_eq
  have hvalues : (Named.names arguments.values).Nodup := by
    rw [Arguments.names_values, hnames]
    exact ht.names_nodup
  apply Named.align_of_lookup ht.names_nodup hnames
  intro name kind hmem
  obtain ⟨scalar, text, hscalar, hspells, hplace⟩ :=
    exists_place_of_decode ht hmatch hdecode hmem
  exact ⟨scalar, hscalar, text, (lookup_placed_iff hvalues).mpr ⟨_, lookup_values hscalar, hplace⟩,
    hspells⟩

theorem complaints_values_eq_nil (ht : route.template.WellFormed)
    (hmatch : route.template.match? path = some captures)
    (hdecode : route.decode captures = .ok arguments) : route.complaints arguments.values = [] := by
  have hnames := (decode_eq_ok_iff.mp hdecode).2.names_eq
  apply complaints_eq_nil
  intro name value hmem
  obtain ⟨⟨_, scalar⟩, hargument, hpair⟩ := List.mem_map.mp hmem
  cases hpair
  have hname : name ∈ Named.names route.parameters :=
    hnames ▸ Named.mem_names_iff.mpr ⟨scalar, hargument⟩
  obtain ⟨kind, hkind⟩ := Named.mem_names_iff.mp hname
  obtain ⟨other, text, hother, -, hplace⟩ := exists_place_of_decode ht hmatch hdecode hkind
  have hlookup := (Named.lookup_eq_some_iff_mem (hnames ▸ ht.names_nodup)).mpr hargument
  rw [hother] at hlookup
  cases hlookup
  exact ⟨text, hplace⟩

theorem canonicalPath?_eq (hmatch : route.template.match? path = some captures)
    (hdecode : route.decode captures = .ok arguments) :
    route.canonicalPath? path = (route.build arguments.values).path? := by
  simp [canonicalPath?, match?, hmatch, RouteMatch.decode, hdecode, Except.toOption]

theorem diagnostics_build_eq_nil (hcomplaints : route.complaints values = [])
    (hbuild : (route.build values).path? = some path) : (route.build values).diagnostics = [] := by
  have hresult : (route.build values).result = .ok path := Except.toOption_eq_some_iff.mp hbuild
  rw [Generation.diagnostics, hresult]
  exact hcomplaints

/-- What is decoded of a matched path can be built without complaint. The path that comes of it is
decoded to the same arguments, so that it comes of itself. -/
theorem build_decode_match (hroute : ofSource source endpoint name = .ok route)
    (hmatch : route.template.match? path = some captures)
    (hdecode : route.decode captures = .ok arguments) :
    ∃ canonical canonicalCaptures, (route.build arguments.values).diagnostics = [] ∧
      (route.build arguments.values).path? = some canonical ∧
      route.template.match? canonical = some canonicalCaptures ∧
      route.decode canonicalCaptures = .ok arguments ∧
      route.canonicalPath? path = some canonical ∧
      route.canonicalPath? canonical = some canonical := by
  have ht := wellFormed_of_ofSource hroute
  have hspelled := spelled_of_decode ht hmatch hdecode
  have hfit := fit_of_spelled ht.names_nodup hspelled
  have hbuild : (route.build arguments.values).path? =
      some (route.template.fill (route.placed arguments.values)) := by
    refine path?_build_eq_some_iff.mpr ⟨fun name hname => ?_, rfl⟩
    obtain ⟨kind, hmem⟩ := Named.mem_names_iff.mp hname
    obtain ⟨text, htext, -⟩ := hfit name kind hmem
    exact ⟨text, htext⟩
  -- The new path is decoded to the same arguments, from which it is built in turn.
  have hcomplaints := complaints_values_eq_nil ht hmatch hdecode
  have hagain := Template.match?_fill ht hfit
  have hdecodeAgain := decode_of_spelled ht.names_nodup hspelled
  exact ⟨_, _, diagnostics_build_eq_nil hcomplaints hbuild, hbuild, hagain, hdecodeAgain,
    (canonicalPath?_eq hmatch hdecode).trans hbuild,
    (canonicalPath?_eq hagain hdecodeAgain).trans hbuild⟩

theorem build_decode_match_tagged :
    let arguments := [("id", .integer 7), ("tag", .text "é\uFFFDa")]
    ∃ canonical captures, (tagged.build (Arguments.values arguments)).diagnostics = [] ∧
      (tagged.build (Arguments.values arguments)).path? = some canonical ∧
      tagged.template.match? canonical = some captures ∧
      tagged.decode captures = .ok arguments ∧
      tagged.canonicalPath? "/U/٠٠٧/%c3%a9%ff%61" = some canonical ∧
      tagged.canonicalPath? canonical = some canonical := by
  have hmatch : tagged.template.match? "/U/٠٠٧/%c3%a9%ff%61" =
      some [("id", "٠٠٧"), ("tag", "%c3%a9%ff%61")] := by decide +kernel
  exact build_decode_match ofSource_tagged hmatch (by decide +kernel)

end Route
end TypedRoutes
