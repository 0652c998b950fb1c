/-
This file reads configurations from their texts in JSON and in YAML.
-/

import PropertyPanel.Configuration.Basic
import PropertyPanel.Json.Reader
import PropertyPanel.Yaml.Reader

namespace PropertyPanel.Configuration

def ofJsonText (text : String) : Except ConfigurationError Configuration :=
  ofSource Source.nestingLimit (Json.source? text)

def ofYamlText (text : String) : Except ConfigurationError Configuration :=
  ofSource Yaml.nestingLimit (Yaml.source? text)

end PropertyPanel.Configuration
