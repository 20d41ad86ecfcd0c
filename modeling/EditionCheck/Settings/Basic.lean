import EditionCheck.Check.Run
import EditionCheck.Report.Format

/-!
  Settings and the layers that they are put together from.

  A layer sets some of the fields. `Layer.above` lays one on another: what the upper one sets
  counts. `Layer.settle` fills what is left with the defaults. `Settings.asLayer` is the layer that
  sets everything, and `settle_asLayer` says that settling it gives the settings back.
-/

namespace EditionCheck

/-- All that a run can be told. -/
structure Settings where
  projectPath : Path
  target : Edition
  logConforming : Bool
  development : Bool
  optional : Bool
  ignore : List String
  modulesDir : String
  outputFormat : OutputFormat
  outputFile : Option Path
  useColors : Bool
  showProgress : Bool
  quiet : Bool
  verbose : Bool
  failOnNonConforming : Bool
  deriving DecidableEq, Repr

namespace Settings

/-- The settings of a run that is told nothing. -/
def standard : Settings where
  projectPath := Path.ofString "."
  target := .es5
  logConforming := false
  development := false
  optional := false
  ignore := []
  modulesDir := "node_modules"
  outputFormat := .text
  outputFile := none
  useColors := true
  showProgress := true
  quiet := false
  verbose := false
  failOnNonConforming := true

/-- What a check is told. -/
def options (s : Settings) : Check.Options where
  logConforming := s.logConforming
  target := s.target
  development := s.development
  optional := s.optional
  ignore := s.ignore
  modulesDir := s.modulesDir

/-- Settings of which some fields are set. -/
structure Layer where
  projectPath : Option Path
  target : Option Edition
  logConforming : Option Bool
  development : Option Bool
  optional : Option Bool
  ignore : Option (List String)
  modulesDir : Option String
  outputFormat : Option OutputFormat
  outputFile : Option Path
  useColors : Option Bool
  showProgress : Option Bool
  quiet : Option Bool
  verbose : Option Bool
  failOnNonConforming : Option Bool
  deriving DecidableEq, Repr

namespace Layer

/-- The layer that sets nothing. -/
def empty : Layer where
  projectPath := none
  target := none
  logConforming := none
  development := none
  optional := none
  ignore := none
  modulesDir := none
  outputFormat := none
  outputFile := none
  useColors := none
  showProgress := none
  quiet := none
  verbose := none
  failOnNonConforming := none

/-- One layer on another: each field is that of the upper one if it sets it. -/
def above (upper lower : Layer) : Layer where
  projectPath := upper.projectPath <|> lower.projectPath
  target := upper.target <|> lower.target
  logConforming := upper.logConforming <|> lower.logConforming
  development := upper.development <|> lower.development
  optional := upper.optional <|> lower.optional
  ignore := upper.ignore <|> lower.ignore
  modulesDir := upper.modulesDir <|> lower.modulesDir
  outputFormat := upper.outputFormat <|> lower.outputFormat
  outputFile := upper.outputFile <|> lower.outputFile
  useColors := upper.useColors <|> lower.useColors
  showProgress := upper.showProgress <|> lower.showProgress
  quiet := upper.quiet <|> lower.quiet
  verbose := upper.verbose <|> lower.verbose
  failOnNonConforming := upper.failOnNonConforming <|> lower.failOnNonConforming

/-- The settings that a layer gives, with the defaults where it sets nothing. -/
def settle (l : Layer) : Settings where
  projectPath := l.projectPath.getD standard.projectPath
  target := l.target.getD standard.target
  logConforming := l.logConforming.getD standard.logConforming
  development := l.development.getD standard.development
  optional := l.optional.getD standard.optional
  ignore := l.ignore.getD standard.ignore
  modulesDir := l.modulesDir.getD standard.modulesDir
  outputFormat := l.outputFormat.getD standard.outputFormat
  outputFile := l.outputFile <|> standard.outputFile
  useColors := l.useColors.getD standard.useColors
  showProgress := l.showProgress.getD standard.showProgress
  quiet := l.quiet.getD standard.quiet
  verbose := l.verbose.getD standard.verbose
  failOnNonConforming := l.failOnNonConforming.getD standard.failOnNonConforming

theorem above_empty (l : Layer) : l.above empty = l := by simp [above, empty]

end Layer

/-- The layer that sets every field. -/
def asLayer (s : Settings) : Layer where
  projectPath := some s.projectPath
  target := some s.target
  logConforming := some s.logConforming
  development := some s.development
  optional := some s.optional
  ignore := some s.ignore
  modulesDir := some s.modulesDir
  outputFormat := some s.outputFormat
  outputFile := s.outputFile
  useColors := some s.useColors
  showProgress := some s.showProgress
  quiet := some s.quiet
  verbose := some s.verbose
  failOnNonConforming := some s.failOnNonConforming

theorem settle_asLayer (s : Settings) : s.asLayer.settle = s := by
  simp [asLayer, Layer.settle, standard]

end Settings
end EditionCheck
