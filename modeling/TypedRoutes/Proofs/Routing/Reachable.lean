import TypedRoutes.Proofs.Dispatch.Coherence
import TypedRoutes.Proofs.Routing.Loading
import TypedRoutes.Proofs.Template.Address
import TypedRoutes.Proofs.Template.Expression
import TypedRoutes.Proofs.Uri.NormalForm

/-!
# Templates that are reached

A cleaned URI begins with one slash, ends with none unless it is the root, and has no query and no
fragment. Its pieces tell which templates it can match: those of the root, and those whose first
segment is empty while the next and the last are not. Any other template is registered like these,
but no request is ever routed to it.
-/
namespace TypedRoutes

/-! ## Segments and their pieces -/

namespace Segment

variable {segment : Segment} {segments : List Segment} {piece : List Char}
variable {pieces : List (List Char)} {text : String}

theorem accepts_nil_iff : segment.Accepts [] ↔ segment = .literal "" := by
  constructor
  · intro h
    cases segment with
    | literal text =>
      have hempty : text.toList = [] := by
        cases htext : text.toList with
        | nil => rfl
        | cons c cs =>
          rw [Accepts, htext] at h
          cases h
      rw [String.toList_eq_nil_iff.mp hempty]
    | parameter kind name => exact absurd rfl (Kind.ne_nil_of_matchesText h)
  · rintro rfl
    rfl

theorem isPlain_iff_of_accepts (h : (literal text).Accepts piece) :
    Uri.IsPlain text.toList ↔ Uri.IsPlain piece := by
  rw [Uri.IsPlain, Uri.IsPlain, Text.mark_mem_iff_of_sameText (by decide) h,
    Text.mark_mem_iff_of_sameText (by decide) h]

/-- An empty segment goes with an empty piece and with no other. -/
theorem head?_eq_nil_iff (h : List.Forall₂ Accepts segments pieces) :
    segments.head? = some (.literal "") ↔ pieces.head? = some [] := by
  cases h with
  | nil => simp
  | @cons segment piece _ _ hpiece _ =>
    rw [List.head?_cons, List.head?_cons, Option.some_inj, Option.some_inj]
    constructor
    · rintro rfl
      cases piece with
      | nil => rfl
      | cons _ _ => cases hpiece
    · rintro rfl
      exact accepts_nil_iff.mp hpiece

theorem getLast?_eq_nil_iff (h : List.Forall₂ Accepts segments pieces) :
    segments.getLast? = some (.literal "") ↔ pieces.getLast? = some [] := by
  rw [← List.head?_reverse, ← List.head?_reverse]
  exact head?_eq_nil_iff (List.forall₂_reverse_iff.mpr h)

theorem exists_mem_accepts (h : List.Forall₂ Accepts segments pieces) (hmem : segment ∈ segments) :
    ∃ piece ∈ pieces, segment.Accepts piece := by
  induction h with
  | nil => cases hmem
  | @cons first piece _ pieces hfirst _ ih =>
    rcases List.mem_cons.mp hmem with rfl | hrest
    · exact ⟨piece, List.mem_cons_self, hfirst⟩
    · obtain ⟨other, hother, haccepts⟩ := ih hrest
      exact ⟨other, List.mem_cons_of_mem piece hother, haccepts⟩

end Segment

/-- A text that a placeholder of a kind matches. -/
def Kind.sample : Kind → String
  | .boolean => "true"
  | .float | .integer => "0"
  | .text => "a"

theorem Kind.matchesText_sample (kind : Kind) : kind.matchesText kind.sample.toList = true := by
  cases kind <;> decide +kernel

namespace Template

variable {t : Template} {raw path : String} {pieces : List (List Char)}

/-- The shape of the templates that are reached: the root with one slash or two, or a path with an
empty segment in front and none behind it or at the end, whose literals have neither the mark of a
query nor that of a fragment. -/
inductive IsReachable (t : Template) : Prop
  | root (raw : t.raw = "/" ∨ t.raw = "//")
  | path (rest : List Segment) (leading : t.segments = .literal "" :: rest) (nonempty : rest ≠ [])
    (first : rest.head? ≠ some (.literal "")) (last : rest.getLast? ≠ some (.literal ""))
    (plain : ∀ text, .literal text ∈ t.segments → Uri.IsPlain text.toList)

/-! ## Paths that are matched -/

/-- The root has only templates of empty segments. -/
theorem raw_of_fits_root (h : t.Fits "/" pieces) : t.raw = "/" ∨ t.raw = "//" := by
  obtain ⟨segments, trailing⟩ := t
  obtain ⟨hpieces | ⟨htrailing, hpieces⟩, haccepts⟩ := h
  · obtain rfl : [[], []] = pieces := hpieces
    obtain _ | ⟨hfirst, _ | ⟨hsecond, ⟨⟩⟩⟩ := haccepts
    rw [Segment.accepts_nil_iff] at hfirst hsecond
    subst hfirst hsecond
    cases trailing with
    | false => exact .inl rfl
    | true => exact .inr rfl
  · have hsplit : [[]] ++ [[]] = pieces ++ [[]] := hpieces
    obtain rfl := List.append_cancel_right hsplit
    obtain _ | ⟨hfirst, ⟨⟩⟩ := haccepts
    rw [Segment.accepts_nil_iff] at hfirst
    subst hfirst htrailing
    exact .inl rfl

/-- The pieces of a path in normal form show the shape of every template that matches it. -/
theorem isReachable_of_fits (hpath : Uri.IsNormal path.toList) (h : t.Fits path pieces) :
    t.IsReachable := by
  obtain ⟨rest, hrest, hfirst, hlast⟩ := hpath.exists_rest
  by_cases hroot : rest = []
  · have hslash : path = "/" := by rw [← String.toList_inj, hrest, hroot]; rfl
    exact .root (raw_of_fits_root (hslash ▸ h))
  · have hfirstPiece : (Text.pieces rest).head? ≠ some [] :=
      fun hnil => hroot (Text.eq_nil_of_head?_pieces hnil hfirst)
    have hlastPiece : (Text.pieces rest).getLast? ≠ some [] :=
      fun hnil => hroot (Text.eq_nil_of_getLast?_pieces hnil hlast)
    have hne := Text.pieces_ne_nil rest
    have hall : Text.pieces path.toList = pieces := by
      rcases h.cuts with hall | ⟨-, hall⟩
      · exact hall
      · -- The last piece is not empty, so nothing is left out at the end.
        rw [hrest, Text.pieces_cons_slash] at hall
        have hend := congrArg List.getLast? hall
        rw [List.getLast?_cons_of_ne_nil hne, List.getLast?_concat] at hend
        exact absurd hend hlastPiece
    have haccepts := h.accepts
    rw [← hall, hrest, Text.pieces_cons_slash] at haccepts
    cases hsegments : t.segments with
    | nil =>
      rw [hsegments] at haccepts
      cases haccepts
    | cons first segments =>
      rw [hsegments] at haccepts
      obtain ⟨hleading, hbehind⟩ := List.forall₂_cons.mp haccepts
      rw [Segment.accepts_nil_iff] at hleading
      subst hleading
      refine .path segments hsegments ?_ ?_ ?_ ?_
      · rintro rfl
        exact hne (List.forall₂_nil_left_iff.mp hbehind)
      · rwa [Ne, Segment.head?_eq_nil_iff hbehind]
      · rwa [Ne, Segment.getLast?_eq_nil_iff hbehind]
      · intro text htext
        obtain ⟨piece, hpiece, hsame⟩ := Segment.exists_mem_accepts h.accepts htext
        rw [Segment.isPlain_iff_of_accepts hsame]
        rw [← hall] at hpiece
        have hmem (c : Char) (hc : c ∈ piece) : c ∈ path.toList := by
          rw [← Text.joinPieces_pieces path.toList]
          exact Text.mem_joinPieces_of_mem hpiece hc
        exact ⟨fun hquery => hpath.plain.1 (hmem _ hquery),
          fun hfragment => hpath.plain.2 (hmem _ hfragment)⟩

/-! ## Templates that match a path -/

/-- Texts for the placeholders of a template. -/
def samples (t : Template) : Captures :=
  t.parameters.map fun (name, kind) => (name, kind.sample)

theorem fit_samples (ht : t.WellFormed) : t.samples.Fit t.parameters := by
  have hnames : Named.names t.samples = Named.names t.parameters := by
    simp [samples, Named.names, Function.comp_def]
  intro name kind hmem
  refine ⟨kind.sample, ?_, kind.matchesText_sample⟩
  exact (Named.lookup_eq_some_iff_mem (hnames ▸ ht.names_nodup)).mpr
    (List.mem_map.mpr ⟨(name, kind), hmem, rfl⟩)

theorem matchesPath_of_isAddressable (hparse : parse raw = .ok t) (h : t.IsAddressable) :
    t.matchesPath (Uri.clean (t.fill t.samples) "/") = true := by
  have hfit := fit_samples (wellFormed_of_parse hparse)
  rw [Uri.clean_root, Uri.pathPart_eq_self (h.isPlain_fill hfit), matchesPath,
    match?_of_cuts (cuts_clean hparse h hfit) (Segment.captureAll?_segmentText hfit)]
  rfl

theorem source_ne_nil {segment : Segment} (h : segment ≠ .literal "") : segment.source ≠ [] := by
  cases segment with
  | literal text =>
    intro hempty
    rw [String.toList_eq_nil_iff.mp hempty] at h
    exact h rfl
  | parameter kind name => exact List.cons_ne_nil _ _

theorem isAddressable_of_path {rest : List Segment} (leading : t.segments = .literal "" :: rest)
    (nonempty : rest ≠ []) (first : rest.head? ≠ some (.literal ""))
    (last : rest.getLast? ≠ some (.literal ""))
    (plain : ∀ text, .literal text ∈ t.segments → Uri.IsPlain text.toList) : t.IsAddressable where
  leading_slash := by
    rw [raw, String.toList_ofList, source, leading, List.map_cons,
      Text.joinPieces_cons (by simpa using nonempty)]
    rfl
  literal_plain := plain
  ends_ne_nil := by
    have hfirst := List.head?_eq_some_head nonempty
    have hlast := List.getLast?_eq_some_getLast nonempty
    refine .inr ⟨⟨rest.head nonempty, ?_, ?_⟩, rest.getLast nonempty, ?_, ?_⟩
    · rw [leading, List.getElem?_cons_succ, ← List.head?_eq_getElem?, hfirst]
    · exact source_ne_nil fun hempty => first (hempty ▸ hfirst)
    · rw [leading, List.getLast?_cons_of_ne_nil nonempty, hlast]
    · exact source_ne_nil fun hempty => last (hempty ▸ hlast)

theorem isAddressable_root (hparse : parse "/" = .ok t) : t.IsAddressable := by
  rw [parse_root] at hparse
  cases hparse
  refine ⟨by decide, ?_, .inl rfl⟩
  intro text htext
  cases List.mem_singleton.mp htext
  decide

theorem exists_normal_of_isReachable (hparse : parse raw = .ok t) (h : t.IsReachable) :
    ∃ path : String, Uri.IsNormal path.toList ∧ t.matchesPath path = true := by
  cases h with
  | root hroot =>
    rw [raw_of_parse hparse] at hroot
    rcases hroot with rfl | rfl
    · exact ⟨_, Uri.isNormal_clean _ "/",
        matchesPath_of_isAddressable hparse (isAddressable_root hparse)⟩
    · have hdouble : parse "//" = .ok ⟨[.literal "", .literal ""], true⟩ := rfl
      cases hdouble.symm.trans hparse
      exact ⟨_, Uri.isNormal_clean "/" "/", by decide +kernel⟩
  | path rest leading nonempty first last plain =>
    exact ⟨_, Uri.isNormal_clean _ "/", matchesPath_of_isAddressable hparse
      (isAddressable_of_path leading nonempty first last plain)⟩

/-- Some URI is cleaned to a path that a template matches exactly if the template has the shape for
it, whatever the base URI is. -/
theorem exists_matchesPath_clean_iff (hparse : parse raw = .ok t) (base : String) :
    (∃ uri, t.matchesPath (Uri.clean uri (Uri.withTrailingSlash base)) = true) ↔
      t.IsReachable := by
  constructor
  · rintro ⟨uri, huri⟩
    obtain ⟨captures, hcaptures⟩ := Option.isSome_iff_exists.mp huri
    obtain ⟨pieces, hfits, -⟩ := match?_eq_some_iff.mp hcaptures
    exact isReachable_of_fits (Uri.isNormal_clean uri _) hfits
  · intro h
    obtain ⟨path, hpath, hmatch⟩ := exists_normal_of_isReachable hparse h
    obtain ⟨uri, rfl⟩ := hpath.exists_clean base
    exact ⟨uri, hmatch⟩

end Template

/-! ## Routes -/

namespace RouteTable

/-- An entry that gives no methods, and so is for GET. -/
def plainEntry (name template : String) (endpoint : Value) : Value :=
  .mapping
    [(.text "name", .text name), (.text "template", .text template), (.text "endpoint", endpoint)]

/-- A table with no other entry. -/
def lone (name template : String) (endpoint : Value) : Value :=
  .mapping [(.text "routes", .list [plainEntry name template endpoint])]

theorem entriesOf_lone (name template : String) (endpoint : Value) :
    entriesOf (lone name template endpoint) = .ok [plainEntry name template endpoint] :=
  rfl

theorem isGivenBy_plainEntry (name template : String) (endpoint : Value) :
    Entry.IsGivenBy ⟨name, .text "GET", template, endpoint⟩ (plainEntry name template endpoint) :=
  ⟨_, rfl, rfl, rfl, rfl, rfl, rfl⟩

end RouteTable

variable {raw name : String} {t : Template}

namespace Registry

variable {registry : Registry}

theorem load_lone (hparse : Template.parse raw = .ok t)
    (hopen : registry.isFrozen = false) (hnew : registry.contains name = false) (endpoint : Value) :
    registry.load (RouteTable.lone name raw endpoint) =
      ⟨registry.add ⟨⟨name, t, endpoint⟩, [.get]⟩, [⟨⟨name, t, endpoint⟩, [.get]⟩], none⟩ := by
  have hmethods : Method.ofValue (.text "GET") = .ok [.get] := rfl
  have hroute : Route.ofSource raw endpoint (some name) = .ok ⟨name, t, endpoint⟩ :=
    Except.map_eq_ok_iff.mpr ⟨t, hparse, rfl⟩
  have hregister : registry.register (.text "GET") raw endpoint name =
      .ok (registry.add ⟨⟨name, t, endpoint⟩, [.get]⟩, ⟨⟨name, t, endpoint⟩, [.get]⟩) := by
    refine Except.map_eq_ok_iff.mpr ⟨_, ?_, rfl⟩
    simp [check, hopen, hnew, hmethods, hroute]
  have hentry : registry.registerEntry 0 (RouteTable.plainEntry name raw endpoint) = .ok _ :=
    registerEntry_eq_ok_iff.mpr ⟨_, RouteTable.isGivenBy_plainEntry name raw endpoint, hregister⟩
  rw [load, RouteTable.entriesOf_lone]
  simp only [loadEntries, hentry]

end Registry

namespace Dispatcher

variable {dispatcher : Dispatcher} {decision : Decision}

/-- A request is routed to nothing but a route whose template matches its path. -/
theorem matchesPath_of_route? {method uri : String} {route : Route}
    (h : dispatcher.decision method uri = .ok decision) (hroute : decision.route? = some route) :
    route.template.matchesPath (dispatcher.clean uri) = true := by
  obtain ⟨outcome, houtcome, rfl⟩ := Except.map_eq_ok_iff.mp h
  have hresolved := (leadsTo_of_outcome houtcome).route?_eq
  rw [show outcome.route? = some route from hroute] at hresolved
  obtain ⟨found, hfound, rfl⟩ := Option.map_eq_some_iff.mp hresolved.symm
  obtain ⟨route, -, hmatch⟩ := List.exists_of_findSome?_eq_some hfound
  obtain ⟨captures, hcaptures, rfl⟩ := Option.map_eq_some_iff.mp hmatch
  exact Option.isSome_iff_exists.mpr ⟨captures, hcaptures⟩

/-- A template is reached exactly if it has the shape for it: under every base URI some URI is
cleaned to a path that it matches, and routed to it if there is no other route. Of any other shape
it is loaded without a failure all the same, but in no registry a request is routed to it. -/
theorem reachable_iff (hparse : Template.parse raw = .ok t) (name : String) (endpoint : Value)
    (settings own : Settings) (files : FileTree) :
    let route : Route := ⟨name, t, endpoint⟩
    let registry := Registry.empty.add ⟨route, [.get]⟩
    (∀ base, (∃ uri, t.matchesPath (Uri.clean uri (Uri.withTrailingSlash base)) = true) ↔
      t.IsReachable) ∧
    (∀ registry : Registry, registry.isFrozen = false → registry.contains name = false →
      registry.load (RouteTable.lone name raw endpoint) =
        ⟨registry.add ⟨route, [.get]⟩, [⟨route, [.get]⟩], none⟩) ∧
    ((∃ uri, calledRoute? ⟨⟨registry, own⟩, settings, files⟩ "GET" uri = some name) ↔
      t.IsReachable) ∧
    (¬t.IsReachable → ∀ (dispatcher : Dispatcher) (method uri : String) (decision : Decision),
      dispatcher.decision method uri = .ok decision →
        ∀ route, decision.route? = some route → route.template ≠ t) := by
  intro route registry
  have hshape (settings : Settings) :
      (∃ uri, t.matchesPath (Uri.clean uri settings.baseUri) = true) ↔ t.IsReachable := by
    rw [← settings.withTrailingSlash_baseUri]
    exact Template.exists_matchesPath_clean_iff hparse settings.baseUri
  have hcalled (uri : String) :
      calledRoute? ⟨⟨registry, own⟩, settings, files⟩ "GET" uri = some name ↔
        t.matchesPath (Uri.clean uri settings.baseUri) = true := by
    have hmethod : Text.upper "GET" = "GET" := by decide +kernel
    have hroutes : registry.routesForToken "GET" = [route] := rfl
    have hresolve (path : String) :
        Resolver.resolve? ⟨registry, own⟩ "GET" path =
          (t.match? path).map fun captures => ⟨route, captures⟩ := by
      rw [Resolver.resolve?, hroutes, Route.matchFirst?, List.findSome?_singleton, Route.match?]
    rw [calledRoute?, request, hmethod, hresolve, clean, Template.matchesPath]
    cases t.match? (Uri.clean uri settings.baseUri) <;> simp [route]
  refine ⟨Template.exists_matchesPath_clean_iff hparse,
    fun registry hopen hnew => Registry.load_lone hparse hopen hnew endpoint, ?_, ?_⟩
  · simp only [hcalled]
    exact hshape settings
  · rintro hunreachable dispatcher method uri decision hdecision route hroute rfl
    exact hunreachable
      ((hshape dispatcher.settings).mp ⟨uri, matchesPath_of_route? hdecision hroute⟩)

/-- A slash more between the segments does no harm, but one in front does. -/
theorem reachable_iff_doubled :
    let inner : Template := ⟨[.literal "", .literal "a", .literal "", .parameter .text "b"], false⟩
    let leading : Template := ⟨[.literal "", .literal "", .literal "users"], true⟩
    let settings := Settings.ofRaw {}
    let route : Route := ⟨"users", leading, .null⟩
    (Template.parse "/a//\x7bs:b\x7d" = .ok inner ∧ inner.IsReachable ∧
      ∃ uri, inner.matchesPath (Uri.clean uri (Uri.withTrailingSlash "/a")) = true) ∧
    Template.parse "//users/" = .ok leading ∧ ¬leading.IsReachable ∧
      Registry.empty.load (RouteTable.lone "users" "//users/" .null) =
        ⟨Registry.empty.add ⟨route, [.get]⟩, [⟨route, [.get]⟩], none⟩ ∧
      ¬∃ uri, calledRoute? ⟨⟨Registry.empty.add ⟨route, [.get]⟩, settings⟩, settings, ⟨[]⟩⟩
        "GET" uri = some "users" := by
  intro inner leading settings route
  have hinner : Template.parse "/a//\x7bs:b\x7d" = .ok inner := by rfl
  have hleading : Template.parse "//users/" = .ok leading := by rfl
  have hreached : inner.IsReachable := by
    refine .path _ rfl (by decide) (by decide) (by decide) ?_
    intro text htext
    have hliteral : text = "" ∨ text = "a" ∨ text = "" := by simpa [inner] using htext
    rcases hliteral with rfl | rfl | rfl <;> decide
  have hunreached : ¬leading.IsReachable := by
    rintro (hraw | ⟨rest, hsegments, -, hfirst, -⟩)
    · revert hraw
      decide +kernel
    · cases hsegments
      exact hfirst rfl
  obtain ⟨hclean, -⟩ := reachable_iff hinner "a" .null settings settings ⟨[]⟩
  obtain ⟨-, hload, hcalled, -⟩ := reachable_iff hleading "users" .null settings settings ⟨[]⟩
  exact ⟨⟨hinner, hreached, (hclean "/a").mpr hreached⟩, hleading, hunreached,
    hload Registry.empty rfl rfl, hcalled.not.mpr hunreached⟩

end Dispatcher
end TypedRoutes
