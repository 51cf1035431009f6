import BraceFormat.Render.Engine
/-!
# Package information

The name, version and description of the package, and the one line the command line prints:
the three formatted into the template `{name} v{version}: {description}`.

## Main definitions

* `PackageInfo`, `packageInfo`.
* `PackageInfo.banner`: the command line's line.
-/

namespace BraceFormat

/-- The name, version and description of a package. -/
structure PackageInfo where
  name : String
  version : String
  description : String
  deriving DecidableEq, Repr

/-- This package. -/
def packageInfo : PackageInfo where
  name := "rtformat"
  version := "0.1.0"
  description := "Format templates and arguments supplied at runtime with brace directive syntax"

/-- The line that presents a package, formatted from its fields. -/
def PackageInfo.banner (p : PackageInfo) : Except CallError String :=
  formatText "\x7bname\x7d v\x7bversion\x7d: \x7bdescription\x7d" {} []
    [("name", .text p.name), ("version", .text p.version), ("description", .text p.description)]

end BraceFormat
