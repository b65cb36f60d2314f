import TypedRoutes.Config.Router
import TypedRoutes.Dispatch.Basic

/-!
# Settings from values

Settings may be given by name as values of any type. The URIs and the directories have to be texts,
and so does the URL of the application unless it counts for nothing. The other settings count by
whether they are there; a summary shows them as they were given.
-/
namespace TypedRoutes

/-- Settings with the values of those that need not be texts. -/
structure GivenSettings where
  settings : Settings
  appUrl : Value := .text settings.appUrl
  error400Route : Value := .text settings.error400Route
  error404Route : Value := .text settings.error404Route
  strictGeneration : Value := .boolean settings.strictGeneration

namespace GivenSettings

def ofSettings (settings : Settings) : GivenSettings where
  settings := settings

/-- The value given for a setting, or its default. -/
def valueOf (given : Named Value) (name : String) : Value :=
  (given.lookup name).getD <|
    ((Settings.schema.fields.find? fun field => field.name == name).bind (·.default)).getD .null

def requiredText : Value → Except Failure String
  | .text s => .ok s
  | _ => .error .notText

/-- The text of a value that is there, and an empty one otherwise. -/
def shownText (value : Value) : String :=
  if value.isPresent then value.plain else ""

/-- Settings from values by name, all of which have to be names of settings. -/
def ofNamed (given : Named Value) : Except Failure GivenSettings := do
  if given.any fun (name, _) => !Settings.schema.isKnown (.text name) then
    throw .wrongShape
  let appUrl := valueOf given "app_url"
  let error400Route := valueOf given "error_400_route"
  let error404Route := valueOf given "error_404_route"
  let strictGeneration := valueOf given "strict_generation"
  let settings := Settings.ofRaw {
    baseUri := ← requiredText (valueOf given "base_uri")
    pagesDirectory := ← requiredText (valueOf given "pages_directory")
    staticDirectoryUri := ← requiredText (valueOf given "static_directory_uri")
    appUrl := ← if appUrl.isPresent then requiredText appUrl else .ok ""
    error400Route := shownText error400Route
    error404Route := shownText error404Route
    strictGeneration := strictGeneration.isPresent }
  return {
    settings, error400Route, error404Route, strictGeneration
    appUrl := if appUrl.isPresent then .text settings.appUrl else appUrl }

/-- Settings as plain data. -/
def summary (given : GivenSettings) : Entries :=
  [(.text "base_uri", .text given.settings.baseUri), (.text "app_url", given.appUrl),
   (.text "pages_directory", .text given.settings.pagesDirectory),
   (.text "static_directory_uri", .text given.settings.staticDirectoryUri),
   (.text "error_400_route", given.error400Route),
   (.text "error_404_route", given.error404Route),
   (.text "strict_generation", given.strictGeneration)]

/-- Where a failed request is sent, as it was given. -/
def redirect? (given : GivenSettings) (outcome : Outcome) : Option Value :=
  (outcome.redirect? given.settings).map fun _ =>
    if outcome.status = 400 then given.error400Route else given.error404Route

end GivenSettings

end TypedRoutes
