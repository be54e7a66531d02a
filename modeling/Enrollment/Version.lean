/-!
# Version

The version that the program says it has: that of its installation, or a placeholder when it runs
from a place where it is not installed.
-/

namespace Enrollment

/-- The name of the program. -/
def programName : String := "est-client"

/-- The version. -/
def version (installed : Bool := true) : String := if installed then "0.1.0" else "0.0.0"

/-- The name and the version. -/
def versionText : String := programName ++ " " ++ version

end Enrollment
