import TypedRoutes.Config.Schema
import TypedRoutes.Config.Settings

/-!
# The router section

The settings of the router stand in the section `router` of a configuration.
-/
namespace TypedRoutes

namespace Settings

def textField (name default : String) : Field :=
  ⟨name, .text, some (.text default)⟩

def schema : Schema where
  title := "RouterConfig"
  fields :=
    [textField "base_uri" "/", textField "app_url" "", textField "pages_directory" "/",
     textField "static_directory_uri" "static/", textField "error_400_route" "",
     textField "error_404_route" "", ⟨"strict_generation", .boolean, some (.boolean false)⟩]

def textOf (values : Named Value) (name : String) : String :=
  match values.lookup name with
  | some (.text s) => s
  | _ => ""

/-- The settings that the values of the fields give. -/
def ofValues (values : Named Value) : Settings :=
  ofRaw {
    baseUri := textOf values "base_uri"
    appUrl := textOf values "app_url"
    pagesDirectory := textOf values "pages_directory"
    staticDirectoryUri := textOf values "static_directory_uri"
    error400Route := textOf values "error_400_route"
    error404Route := textOf values "error_404_route"
    strictGeneration :=
      match values.lookup "strict_generation" with
      | some (.boolean b) => b
      | _ => false }

end Settings

namespace Config

/-- The router section; one that is empty or zero counts for nothing. -/
def routerSection (config : Config) : Value :=
  match config.get? "router" with
  | some value => if value.isPresent then value else .mapping []
  | none => .mapping []

/-- The settings of the router. -/
def settings (config : Config) : Except Failure Settings :=
  match config.routerSection with
  | .mapping entries => (Settings.schema.read (.mapping entries)).map Settings.ofValues
  | _ => .error (.fault (.settingInvalid "router" "expected a mapping"))

/-- The warnings about the router section. -/
def settingsWarnings (config : Config) : List LogRecord :=
  match config.routerSection with
  | .mapping entries => Settings.schema.warnings (.mapping entries)
  | _ => []

end Config
end TypedRoutes
