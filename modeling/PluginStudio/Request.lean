/-
  Build requests.

  Key definitions include:
    * `PluginStudio.Field`
    * `PluginStudio.Request`
    * `PluginStudio.Request.ofFields`
    * `PluginStudio.Request.qualifiedMain`
    * `PluginStudio.Request.override?`

  A request is thirteen texts.  One that is not given is the
  empty text, and an empty text overrides nothing.
-/

------------------------------------------------------------
-- Fields
------------------------------------------------------------

namespace PluginStudio

/- The texts of a request, in their order. -/
inductive Field where
  | pluginName
  | packageName
  | mainClass
  | fullMain
  | version
  | author
  | website
  | groupId
  | artifactId
  | javaCode
  | pluginYml
  | configYml
  | pomXml
deriving DecidableEq, Repr

namespace Field

/- The name under which a field is given. -/
def key : Field → String
  | pluginName => "pluginName"
  | packageName => "packageName"
  | mainClass => "mainClass"
  | fullMain => "fullMain"
  | version => "version"
  | author => "author"
  | website => "website"
  | groupId => "groupId"
  | artifactId => "artifactId"
  | javaCode => "javaCode"
  | pluginYml => "pluginYml"
  | configYml => "configYml"
  | pomXml => "pomXml"

/- All fields in their order. -/
def all : List Field :=
  [pluginName, packageName, mainClass, fullMain, version, author,
    website, groupId, artifactId, javaCode, pluginYml, configYml,
    pomXml]

/- The field of a name. -/
def ofKey? (name : String) : Option Field :=
  all.find? fun f => f.key = name

end Field

end PluginStudio

------------------------------------------------------------
-- Requests
------------------------------------------------------------

namespace PluginStudio

/- What a plugin is to be built from. -/
structure Request where
  pluginName : String := ""
  packageName : String := ""
  mainClass : String := ""
  fullMain : String := ""
  version : String := ""
  author : String := ""
  website : String := ""
  groupId : String := ""
  artifactId : String := ""
  javaCode : String := ""
  pluginYml : String := ""
  configYml : String := ""
  pomXml : String := ""
deriving DecidableEq, Repr

namespace Request

/- One text of a request. -/
def get
    (request : Request) :
    Field → String
  | .pluginName => request.pluginName
  | .packageName => request.packageName
  | .mainClass => request.mainClass
  | .fullMain => request.fullMain
  | .version => request.version
  | .author => request.author
  | .website => request.website
  | .groupId => request.groupId
  | .artifactId => request.artifactId
  | .javaCode => request.javaCode
  | .pluginYml => request.pluginYml
  | .configYml => request.configYml
  | .pomXml => request.pomXml

/- The request with a given text for each field. -/
def ofFields (text : Field → String) : Request where
  pluginName := text .pluginName
  packageName := text .packageName
  mainClass := text .mainClass
  fullMain := text .fullMain
  version := text .version
  author := text .author
  website := text .website
  groupId := text .groupId
  artifactId := text .artifactId
  javaCode := text .javaCode
  pluginYml := text .pluginYml
  configYml := text .configYml
  pomXml := text .pomXml

/- A request is no more than its texts. -/
theorem get_ofFields
    (text : Field → String)
    (f : Field) :
    (ofFields text).get f = text f := by
  cases f <;> rfl

/- A request is determined by its texts. -/
theorem ofFields_get (request : Request) :
    ofFields request.get = request :=
  rfl

/- The name of the main class within its package. -/
def qualifiedMain (request : Request) : String :=
  request.packageName ++ "." ++ request.mainClass

/- A text that replaces a default, unless it is empty. -/
def override?
    (request : Request)
    (f : Field) : Option String :=
  if request.get f = "" then none else some (request.get f)

end Request

end PluginStudio
