import PluginStudio.Request
import PluginStudio.Template
import PluginStudio.Text.LowerCase

/-
  The two descriptor files of a plugin project.

  Key definitions include:
    * `PluginStudio.Descriptor`
    * `PluginStudio.Descriptor.template`
    * `PluginStudio.Descriptor.values`
    * `PluginStudio.Descriptor.render`
    * `PluginStudio.Descriptor.text`

  A descriptor that the request does not give is rendered from
  a template.
-/

------------------------------------------------------------
-- Templates
------------------------------------------------------------

namespace PluginStudio

/- Descriptors that have a default. -/
inductive Descriptor where
  | manifest
  | metadata
deriving DecidableEq, Repr

namespace Descriptor

/- Default build manifest. -/
def manifestTemplate : String :=
    "<?xml version=\"1.0\" encoding=\"UTF-8\"?>\n" ++
    "<project xmlns=\"http://maven.apache.org/POM/4.0.0\"\n" ++
    "         xmlns:xsi=\"http://www.w3.org/2001/XMLSchema-instance\"\n" ++
    "         xsi:schemaLocation=\"http://maven.apache.org/POM/4.0.0 http://maven.apache.org/xsd/maven-4.0.0.xsd\">\n" ++
    "    <modelVersion>4.0.0</modelVersion>\n" ++
    "    <groupId>\x7bgroup_id\x7d</groupId>\n" ++
    "    <artifactId>\x7bartifact_id\x7d</artifactId>\n" ++
    "    <version>\x7bversion\x7d</version>\n" ++
    "    <properties>\n" ++
    "        <maven.compiler.source>17</maven.compiler.source>\n" ++
    "        <maven.compiler.target>17</maven.compiler.target>\n" ++
    "        <project.build.sourceEncoding>UTF-8</project.build.sourceEncoding>\n" ++
    "    </properties>\n" ++
    "    <dependencies>\n" ++
    "        <dependency>\n" ++
    "            <groupId>org.spigotmc</groupId>\n" ++
    "            <artifactId>spigot-api</artifactId>\n" ++
    "            <version>1.20.1-R0.1-SNAPSHOT</version>\n" ++
    "            <scope>provided</scope>\n" ++
    "        </dependency>\n" ++
    "    </dependencies>\n" ++
    "    <repositories>\n" ++
    "        <repository>\n" ++
    "            <id>spigot-repo</id>\n" ++
    "            <url>https://hub.spigotmc.org/nexus/content/repositories/snapshots/</url>\n" ++
    "        </repository>\n" ++
    "    </repositories>\n" ++
    "    <build>\n" ++
    "        <plugins>\n" ++
    "            <plugin>\n" ++
    "                <groupId>org.apache.maven.plugins</groupId>\n" ++
    "                <artifactId>maven-jar-plugin</artifactId>\n" ++
    "                <version>3.3.0</version>\n" ++
    "                <configuration>\n" ++
    "                    <archive>\n" ++
    "                        <manifestEntries>\n" ++
    "                            <Main-Class>\x7bmain\x7d</Main-Class>\n" ++
    "                        </manifestEntries>\n" ++
    "                    </archive>\n" ++
    "                    <finalName>\x7bplugin_name\x7d</finalName>\n" ++
    "                </configuration>\n" ++
    "            </plugin>\n" ++
    "        </plugins>\n" ++
    "    </build>\n" ++
    "</project>"

/- Default plugin metadata. -/
def metadataTemplate : String :=
    "name: \x7bplugin_name\x7d\n" ++
    "version: \x7bversion\x7d\n" ++
    "main: \x7bmain\x7d\n" ++
    "author: \x7bauthor\x7d\n" ++
    "website: \x7bwebsite\x7d\n" ++
    "api-version: 1.20"

/- The template of a descriptor. -/
def template : Descriptor → String
  | manifest => manifestTemplate
  | metadata => metadataTemplate

end Descriptor

end PluginStudio

------------------------------------------------------------
-- Rendering
------------------------------------------------------------

namespace PluginStudio

namespace Descriptor

/- The group of the artifact, by default the package. -/
def groupId (request : Request) : String :=
  (request.override? .groupId).getD request.packageName

/- The name of the artifact, by default the plugin's. -/
def artifactId (request : Request) : String :=
  (request.override? .artifactId).getD
    (LowerCase.text request.pluginName)

/- What a descriptor's placeholders stand for. -/
def values
    (request : Request) :
    Descriptor → Template.Values
  | manifest =>
    [("group_id", groupId request),
      ("artifact_id", artifactId request),
      ("version", request.version),
      ("main", request.qualifiedMain),
      ("plugin_name", request.pluginName)]
  | metadata =>
    [("plugin_name", request.pluginName),
      ("version", request.version),
      ("main", request.qualifiedMain),
      ("author", request.author),
      ("website", request.website)]

/- The default text of a descriptor. -/
def render
    (descriptor : Descriptor)
    (request : Request) : String :=
  Template.fill (descriptor.values request) descriptor.template

/- The field that replaces a descriptor. -/
def field : Descriptor → Field
  | manifest => .pomXml
  | metadata => .pluginYml

/- The text of a descriptor: the one given, or the default. -/
def text
    (descriptor : Descriptor)
    (request : Request) : String :=
  (request.override? descriptor.field).getD
    (descriptor.render request)

end Descriptor

end PluginStudio
