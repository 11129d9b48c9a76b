/-!
# A settings file to start from

A file that sets everything to its default and says what the settings are.
-/

namespace DiffGauge.Settings

/-- The lines of the file. -/
def templateLines : List String :=
  ["# rust-diff-analyzer configuration",
   "version = \"1.0\"",
   "",
   "[limits]",
   "max_prod_units = 30         # production units added or modified",
   "max_weighted_score = 100    # sum of weight(code type) x changed lines",
   "# max_prod_lines = 400      # production lines added + removed",
   "fail_on_exceed = true       # exit 1 when any limit fires",
   "",
   "[weights]",
   "production = 3",
   "test = 1",
   "test_utility = 1",
   "benchmark = 1",
   "example = 1",
   "build_script = 2",
   "",
   "[classification]",
   "test_attributes = [\"test\", \"rstest\", \"test_case\"]",
   "test_features = [\"test-utils\", \"testing\"]",
   "test_dirs = [\"tests\"]",
   "test_module_names = [\"tests\"]",
   "benchmark_dirs = [\"benches\"]",
   "example_dirs = [\"examples\"]",
   "build_scripts = [\"build.rs\"]",
   "# ignore_paths = [\"src/generated/*\"]",
   "",
   "[output]",
   "format = \"terminal\"         # terminal | json | yaml",
   "show_details = true"]

/-- The text of the file. -/
def template : String := String.join (templateLines.map (· ++ "\n"))

end DiffGauge.Settings
