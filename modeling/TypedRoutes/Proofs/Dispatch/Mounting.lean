import TypedRoutes.Dispatch.Basic
import TypedRoutes.Proofs.Uri

/-!
# Mounted applications

An application that is mounted under a base URI decides about the URIs behind it as it would about
the same URIs under the root. Of the settings only the base URI tells the two applications apart,
and it matters for nothing but the path that is routed.
-/
namespace TypedRoutes
namespace Dispatcher

variable {registry : Registry} {files : FileTree} {settings own other : Settings}
variable {base method uri rootUri : String}

/-- Beyond the path that is routed the base URI decides nothing. -/
theorem decision_congr
    (h : request ⟨⟨registry, own⟩, settings.mountedAt base, files⟩ method uri =
      request ⟨⟨registry, other⟩, settings.mountedAt "/", files⟩ method rootUri) :
    decision ⟨⟨registry, own⟩, settings.mountedAt base, files⟩ method uri =
      decision ⟨⟨registry, other⟩, settings.mountedAt "/", files⟩ method rootUri := by
  have houtcome (request : Request) :
      outcome ⟨⟨registry, own⟩, settings.mountedAt base, files⟩ request =
        outcome ⟨⟨registry, other⟩, settings.mountedAt "/", files⟩ request := by
    unfold outcome classify endpointPath
    rfl
  have hdecision : Outcome.decision (settings.mountedAt base) =
      Outcome.decision (settings.mountedAt "/") := by
    unfold Outcome.decision Outcome.redirect?
    rfl
  simp only [decision, dispatch, h, houtcome, hdecision]

/-- Behind its base URI an application decides as it would under the root, whatever slashes the URI
begins with, and the base URI without its last slash leads to the root. -/
theorem decision_mountedAt (registry : Registry) (files : FileTree)
    (settings own other : Settings) (base method uri : String)
    (hbase : Uri.IsPlain (Uri.withTrailingSlash base).toList) :
    let mounted : Dispatcher := ⟨⟨registry, own⟩, settings.mountedAt base, files⟩
    let root : Dispatcher := ⟨⟨registry, other⟩, settings.mountedAt "/", files⟩
    mounted.decision method (Resolver.appendPath mounted.settings.baseUri uri) =
      root.decision method uri ∧
    mounted.decision method (String.ofList mounted.settings.baseUri.toList.dropLast) =
      root.decision method "/" := by
  intro mounted root
  have hroot : root.settings.baseUri = "/" := Uri.withTrailingSlash_root
  constructor
  · apply decision_congr
    have hclean := Uri.clean_mounted mounted.settings.baseUri_ne_nil hbase uri
    rw [request, request, clean, clean, hroot]
    exact congrArg (Request.mk _) hclean
  · apply decision_congr
    have hclean := Uri.clean_base_without_slash base hbase
    rw [request, request, clean, clean, hroot]
    exact congrArg (Request.mk _) hclean

/-- The base URI may come once more in the path, which is then routed like any other path. -/
theorem decision_mountedAt_twice :
    let registry :=
      Registry.empty.add ⟨⟨"app", ⟨[.literal "", .literal "app"], false⟩, .null⟩, [.get]⟩
    let settings := Settings.ofRaw { error404Route := "/404" }
    let mounted : Dispatcher := ⟨⟨registry, settings⟩, settings.mountedAt "/app", ⟨[]⟩⟩
    let root : Dispatcher := ⟨⟨registry, settings⟩, settings.mountedAt "/", ⟨[]⟩⟩
    Uri.IsPlain (Uri.withTrailingSlash "/app").toList ∧
    Resolver.appendPath mounted.settings.baseUri "//app/?tab=/1#x" = "/app/app/?tab=/1#x" ∧
    root.request "get" "//app/?tab=/1#x" = ⟨"GET", "/app"⟩ ∧
    mounted.decision "get" (Resolver.appendPath mounted.settings.baseUri "//app/?tab=/1#x") =
      root.decision "get" "//app/?tab=/1#x" ∧
    mounted.decision "get" (String.ofList mounted.settings.baseUri.toList.dropLast) =
      root.decision "get" "/" := by
  intro registry settings mounted root
  have hbase : Uri.IsPlain (Uri.withTrailingSlash "/app").toList := by decide +kernel
  exact ⟨hbase, by decide +kernel, by decide +kernel,
    decision_mountedAt registry ⟨[]⟩ settings settings settings "/app" "get" "//app/?tab=/1#x" hbase⟩

end Dispatcher
end TypedRoutes
