import TypedRoutes.Dispatch.Basic
import TypedRoutes.Proofs.Uri

/-!
# URLs of a host

The URL of a named route is made absolute in two ways: a resolver puts the URL of the application,
without its slash, before the base URI, and a dispatcher puts it, with its slash, before a URI that
loses its leading slashes. The two are one URL exactly if the base URI begins with one slash. If it
begins with none, the URL of the resolver runs into the name of the host.
-/
namespace TypedRoutes

/-! ## Two ways of naming the host -/

namespace Settings

variable {settings : Settings}

/-- The URL of an application is what the resolver makes of it, with a slash behind. -/
theorem toList_appUrl (h : settings.appUrl ≠ "") :
    settings.appUrl.toList = Text.dropTrailingSlashes settings.appUrl.toList ++ ['/'] := by
  have hslash := settings.withTrailingSlash_appUrl.resolve_left h
  rw [← String.toList_inj, Uri.withTrailingSlash, String.toList_ofList] at hslash
  exact hslash.symm

end Settings

namespace Resolver

variable {resolver : Resolver}

/-- What a lenient resolver gives for a name is its prefix and the rest of a path, the same rest with
the host as without. -/
theorem exists_reverse_eq (resolver : Resolver)
    (h : resolver.settings.strictGeneration = false) (name : String) (values : Named Value) :
    ∃ rest : List Char, rest.head? ≠ some '/' ∧ ∀ withHost,
      (resolver.reverse name values withHost).result =
        .ok (resolver.urlPrefix withHost ++ String.ofList rest) := by
  cases hname : resolver.registry.findByName? name with
  | none => exact ⟨[], by simp, fun withHost => by simp [reverse, hname, h]⟩
  | some route =>
    cases hpath : (route.build values).result with
    | error fault => exact ⟨[], by simp, fun withHost => by simp [reverse, hname, urlOf, h, hpath]⟩
    | ok path =>
      refine ⟨_, Text.head?_dropLeadingSlashes_ne path.toList, fun withHost => ?_⟩
      simp [reverse, hname, urlOf, h, hpath, appendPath]

theorem urlPrefix_withHost (h : resolver.settings.appUrl ≠ "") :
    (resolver.urlPrefix true).toList =
      Text.dropTrailingSlashes resolver.settings.appUrl.toList ++
        resolver.settings.baseUri.toList := by
  simp [urlPrefix, h]

end Resolver

namespace Dispatcher

variable {dispatcher : Dispatcher}

/-- The slash of the URL of the application takes the place of the leading slashes of a URI. -/
theorem toList_calledUrl (h : dispatcher.settings.appUrl ≠ "") (uri : String) :
    (dispatcher.calledUrl uri).toList =
      Text.dropTrailingSlashes dispatcher.settings.appUrl.toList ++
        '/' :: Text.dropLeadingSlashes uri.toList := by
  rw [calledUrl, Resolver.appendPath, String.toList_append, String.toList_ofList]
  nth_rewrite 1 [Settings.toList_appUrl h]
  rw [List.append_assoc, List.singleton_append]

/-- The absolute URL that a dispatcher makes of a generated URL begins with the URL of the
application. The one that the resolver gives is the same exactly if the base URI begins with one
slash, and it begins with the URL of the application exactly if the base URI begins with a slash. -/
theorem calledUrl_reverse (registry : Registry) (files : FileTree) (settings : Settings)
    (name : String) (values : Named Value) (hlenient : settings.strictGeneration = false)
    (happ : settings.appUrl ≠ "") :
    let dispatcher : Dispatcher := ⟨⟨registry, settings⟩, settings, files⟩
    ∃ path url,
      (dispatcher.resolver.reverse name values false).result = .ok path ∧
      (dispatcher.resolver.reverse name values true).result = .ok url ∧
      settings.appUrl.toList <+: (dispatcher.calledUrl path).toList ∧
      (url = dispatcher.calledUrl path ↔ Uri.IsRooted settings.baseUri.toList) ∧
      (settings.appUrl.toList <+: url.toList ↔ settings.baseUri.toList.head? = some '/') := by
  intro dispatcher
  obtain ⟨rest, hrest, hreverse⟩ := dispatcher.resolver.exists_reverse_eq hlenient name values
  have hurl (withHost : Bool) :
      (dispatcher.resolver.urlPrefix withHost ++ String.ofList rest).toList =
        (dispatcher.resolver.urlPrefix withHost).toList ++ rest := by
    rw [String.toList_append, String.toList_ofList]
  have hbase : (dispatcher.resolver.urlPrefix false).toList = settings.baseUri.toList := rfl
  have hhost : (dispatcher.resolver.urlPrefix true).toList =
      Text.dropTrailingSlashes settings.appUrl.toList ++ settings.baseUri.toList :=
    Resolver.urlPrefix_withHost happ
  have hcalled (uri : String) : (dispatcher.calledUrl uri).toList =
      Text.dropTrailingSlashes settings.appUrl.toList ++ '/' :: Text.dropLeadingSlashes uri.toList :=
    toList_calledUrl happ uri
  refine ⟨_, _, hreverse false, hreverse true, ?_, ?_, ?_⟩
  · rw [hcalled]
    nth_rewrite 1 [Settings.toList_appUrl happ]
    exact (List.prefix_append_right_inj _).mpr (List.prefix_append ['/'] _)
  -- Host and path are the same in both URLs, which leaves the base URI to compare.
  · rw [← String.toList_inj, hcalled, hurl, hurl, hbase, hhost]
    rw [Text.dropLeadingSlashes_append hrest, List.append_assoc, List.append_right_inj]
    rw [← List.cons_append, List.append_left_inj, Uri.isRooted_iff]
  · rw [hurl, hhost, List.append_assoc]
    nth_rewrite 1 [Settings.toList_appUrl happ]
    rw [List.prefix_append_right_inj]
    obtain ⟨c, cs, hcs⟩ := List.exists_cons_of_ne_nil settings.baseUri_ne_nil
    simp [hcs, eq_comm]

/-- Under a base URI with a slash in front, the absolute URL is the same either way. -/
theorem calledUrl_reverse_users :
    let registry := Registry.empty.add ⟨⟨"users", ⟨[.literal "", .literal "users"], false⟩, .null⟩,
      [.get]⟩
    let settings := Settings.ofRaw { baseUri := "/app", appUrl := "https://example.com" }
    let dispatcher : Dispatcher := ⟨⟨registry, settings⟩, settings, ⟨[]⟩⟩
    settings.strictGeneration = false ∧ settings.appUrl ≠ "" ∧
      (dispatcher.resolver.reverse "users" [] false).result = .ok "/app/users" ∧
      (dispatcher.resolver.reverse "users" [] true).result =
        .ok (dispatcher.calledUrl "/app/users") := by
  intro registry settings dispatcher
  have happ : settings.appUrl ≠ "" := by decide +kernel
  obtain ⟨path, url, hpath, hurl, -, hiff, -⟩ :=
    calledUrl_reverse registry ⟨[]⟩ settings "users" [] rfl happ
  have hrooted : Uri.IsRooted settings.baseUri.toList := by decide +kernel
  have hbuilt : (dispatcher.resolver.reverse "users" [] false).result = .ok "/app/users" := rfl
  refine ⟨rfl, happ, hbuilt, ?_⟩
  rw [hbuilt, Except.ok.injEq] at hpath
  rw [hpath, ← hiff.mpr hrooted]
  exact hurl

/-- Under a base URI without a slash in front, the resolver names another host. -/
theorem reverse_unrooted :
    let registry := Registry.empty.add ⟨⟨"users", ⟨[.literal "", .literal "users"], false⟩, .null⟩,
      [.get]⟩
    let settings := Settings.ofRaw { baseUri := "app", appUrl := "https://example.com" }
    let dispatcher : Dispatcher := ⟨⟨registry, settings⟩, settings, ⟨[]⟩⟩
    (dispatcher.resolver.reverse "users" [] false).result = .ok "app/users" ∧
      (dispatcher.resolver.reverse "users" [] true).result = .ok "https://example.comapp/users" ∧
      dispatcher.calledUrl "app/users" = "https://example.com/app/users" ∧
      ¬settings.appUrl.toList <+: "https://example.comapp/users".toList := by
  intro registry settings dispatcher
  exact ⟨rfl, by decide +kernel, by decide +kernel, by decide +kernel⟩

end Dispatcher
end TypedRoutes
