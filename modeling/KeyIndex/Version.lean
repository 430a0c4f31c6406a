/-!
# Version

The version of the library, as it is reported.

Main definitions:

- `version`: the version.
-/

namespace KeyIndex

/-- The version of the library. -/
def version : String := "0.1.0"

end KeyIndex
