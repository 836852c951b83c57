import PluginStudio.Descriptor
import PluginStudio.Path

/-
  Where the files of a plugin project lie.

  Key definitions include:
    * `PluginStudio.Project.dir`
    * `PluginStudio.Project.sourceDir`
    * `PluginStudio.Project.Tree`
    * `PluginStudio.Project.tree`
-/

------------------------------------------------------------
-- Fixed Names
------------------------------------------------------------

namespace PluginStudio

namespace Project

def manifestFile : String := "pom.xml"
def metadataFile : String := "plugin.yml"
def configFile : String := "config.yml"
def sourceRoot : String := "src/main/java"
def resourceRoot : String := "src/main/resources"
def sourceExtension : String := "java"

/- Directory in which a build leaves what it made. -/
def outputDir : String := "target"

end Project

end PluginStudio

------------------------------------------------------------
-- Places
------------------------------------------------------------

namespace PluginStudio

namespace Project

/- The directory of a request's project. -/
def dir
    (workspace : Path)
    (request : Request) : Path :=
  workspace.join (.ofText request.pluginName)

/- The names between the dots of a package, without empty ones. -/
def packageNames (package : String) : List String :=
  ((Path.splitOn '.' package.toList).map String.ofList).filter
    fun name => name ≠ ""

/- The directory of a package's sources. -/
def sourceDir
    (root : Path)
    (package : String) : Path :=
  ((packageNames package).map Path.ofText).foldl Path.join
    (root.join sourceRoot)

/- The places of a project's files. -/
structure Tree where
  root : Path
  sources : Path
  resources : Path
  manifest : Path
  metadata : Path
  config? : Option Path
  sourceFile : Path
deriving DecidableEq, Repr

/- The places of a request's files in a workspace. -/
def tree
    (workspace : Path)
    (request : Request) : Tree :=
  let root := dir workspace request
  let sources := sourceDir root request.packageName
  let resources := root.join resourceRoot
  { root := root
    sources := sources
    resources := resources
    manifest := root.join manifestFile
    metadata := resources.join metadataFile
    config? :=
      (request.override? .configYml).map fun _ =>
        resources.join configFile
    sourceFile :=
      sources.join
        (.ofText (request.mainClass ++ "." ++ sourceExtension)) }

end Project

end PluginStudio
