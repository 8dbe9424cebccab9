import FluentBuilder.Config
import FluentBuilder.Workspace.FilePath

/-!
# Settings of a pass

A configuration resolved against the directory of its file: the paths of a pass, and how it runs.

* `Settings.ofConfig`: the settings of a configuration.
-/

namespace FluentBuilder

open FluentBuilder.Data

/-- The settings of a generation pass. -/
structure Settings where
  scanPath : String
  descriptorPath : String
  outputPath : String
  markers : List String
  source : SourceKind
  failurePolicy : FailurePolicy
  parallel : Bool
  deriving DecidableEq, Repr

/-- The settings of a configuration, whose paths start at a base directory. -/
def Settings.ofConfig (c : Config) (base : String) : Settings where
  scanPath := FilePath.join base c.source.scanPath
  descriptorPath := FilePath.join base c.source.descriptorPath
  outputPath := FilePath.join base c.output.path
  markers := c.general.markers
  source := c.general.source
  failurePolicy := c.driver.failurePolicy
  parallel := c.driver.parallel

/-- The settings without a configuration. -/
def Settings.default : Settings :=
  Settings.ofConfig {} "."

/-- Settings as a value. -/
def Settings.encode (s : Settings) : Value :=
  .table [("scan_path", .text s.scanPath), ("descriptor_path", .text s.descriptorPath),
    ("output_path", .text s.outputPath), ("markers", .list (s.markers.map Value.text)),
    ("source", .text s.source.label), ("failure_policy", .text s.failurePolicy.label),
    ("parallel", .bool s.parallel)]

end FluentBuilder
