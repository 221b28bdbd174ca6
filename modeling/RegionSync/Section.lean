import RegionSync.Text.Basic

/-!
# Sections

A section is the canonical content of one region: the name that binds it to
the region, a version token that is compared only for equality, and the body.
-/

namespace RegionSync

/-- The canonical content of one named region. -/
structure Section where
  name : Text
  version : Text
  body : Text
  deriving DecidableEq, Repr

end RegionSync
