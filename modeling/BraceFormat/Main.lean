import BraceFormat.About
/-!
# Command line

Prints the package's name, version and description on one line.
-/

open BraceFormat in
/-- Prints the package line. -/
def main : IO Unit :=
  match packageInfo.banner with
  | .ok line => IO.println line
  | .error e => IO.eprintln e.message
