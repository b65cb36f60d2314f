import TypedRoutes.Uri

/-!
# Router settings

The base URI, the page directory and the directory of static files end with exactly one slash, and
so does the URL of the application if there is one.
-/
namespace TypedRoutes

/-- Settings as they are given. -/
structure RawSettings where
  baseUri : String := "/"
  appUrl : String := ""
  pagesDirectory : String := "/"
  staticDirectoryUri : String := "static/"
  error400Route : String := ""
  error404Route : String := ""
  strictGeneration : Bool := false

/-- Settings in their normal form. -/
structure Settings where
  /-- The URI that the application is mounted under. -/
  baseUri : String
  /-- The absolute URL of the application, or an empty text. -/
  appUrl : String
  /-- The directory of the pages that endpoints name. -/
  pagesDirectory : String
  /-- The directory of static files, below the base URI. -/
  staticDirectoryUri : String
  /-- Where requests go whose parameters cannot be read. -/
  error400Route : String
  /-- Where requests go that lead nowhere. -/
  error404Route : String
  /-- Whether a complaint about supplied values leaves no path. -/
  strictGeneration : Bool
  withTrailingSlash_baseUri : Uri.withTrailingSlash baseUri = baseUri
  withTrailingSlash_pagesDirectory : Uri.withTrailingSlash pagesDirectory = pagesDirectory
  withTrailingSlash_staticDirectoryUri :
    Uri.withTrailingSlash staticDirectoryUri = staticDirectoryUri
  withTrailingSlash_appUrl : appUrl = "" ∨ Uri.withTrailingSlash appUrl = appUrl

namespace Settings

/-- The URL of the application in its normal form. -/
def normalAppUrl (url : String) : String :=
  if url = "" then "" else Uri.withTrailingSlash url

theorem normalAppUrl_eq (url : String) :
    normalAppUrl url = "" ∨ Uri.withTrailingSlash (normalAppUrl url) = normalAppUrl url := by
  unfold normalAppUrl
  split
  · exact .inl rfl
  · exact .inr (Uri.withTrailingSlash_withTrailingSlash url)

def ofRaw (raw : RawSettings) : Settings where
  baseUri := Uri.withTrailingSlash raw.baseUri
  appUrl := normalAppUrl raw.appUrl
  pagesDirectory := Uri.withTrailingSlash raw.pagesDirectory
  staticDirectoryUri := Uri.withTrailingSlash raw.staticDirectoryUri
  error400Route := raw.error400Route
  error404Route := raw.error404Route
  strictGeneration := raw.strictGeneration
  withTrailingSlash_baseUri := Uri.withTrailingSlash_withTrailingSlash _
  withTrailingSlash_pagesDirectory := Uri.withTrailingSlash_withTrailingSlash _
  withTrailingSlash_staticDirectoryUri := Uri.withTrailingSlash_withTrailingSlash _
  withTrailingSlash_appUrl := normalAppUrl_eq _

/-- The same settings for an application that is mounted under another base URI. -/
def mountedAt (settings : Settings) (base : String) : Settings :=
  { settings with
    baseUri := Uri.withTrailingSlash base
    withTrailingSlash_baseUri := Uri.withTrailingSlash_withTrailingSlash base }

end Settings

end TypedRoutes
