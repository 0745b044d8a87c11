import SourceRegistry.Identifier

/-!
# What can be wrong with a data source

The causes for which a data source is not found or not accepted, with their codes and texts.
-/

namespace SourceRegistry

inductive DataSourceError where
  | notFound (id : DataSourceId)
  | duplicateName (name : String)
  | invalidName (name : String)
  | invalidPluginSrc (pluginSrc : String)
  | invalidDefinition (reason : String)
  deriving DecidableEq, Repr

namespace DataSourceError

def code : DataSourceError → String
  | .notFound _ => "DATASOURCE_NOT_FOUND"
  | .duplicateName _ => "DATASOURCE_DUPLICATE_NAME"
  | .invalidName _ | .invalidPluginSrc _ | .invalidDefinition _ => "DATASOURCE_INVALID"

def message : DataSourceError → String
  | .notFound id => "Data source not found: " ++ id.text
  | .duplicateName name => "Data source name already in use: " ++ name
  | .invalidName name => "Invalid data source name: " ++ Text.quoted name
  | .invalidPluginSrc pluginSrc => "Invalid plugin source: " ++ Text.quoted pluginSrc
  | .invalidDefinition reason => "Invalid data source definition: " ++ reason

end DataSourceError

end SourceRegistry
