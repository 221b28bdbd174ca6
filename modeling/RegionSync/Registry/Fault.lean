import RegionSync.Registry.Basic
import RegionSync.Text.Quoted

/-!
# The wording of a section fault

A fault names the section and shows the offending text in quotes.
-/

namespace RegionSync.SectionFault

/-- The fault in words. -/
def message : SectionFault → Text
  | badName name =>
      "section name must be a non-empty token without whitespace: ".toList
        ++ name.quoted
  | badVersion name version =>
      "section ".toList ++ name.quoted ++ " has an invalid version: ".toList
        ++ version.quoted
  | repeated name =>
      "section ".toList ++ name.quoted ++ " is defined more than once".toList
  | markerInBody name lineNumber line =>
      "section ".toList ++ name.quoted
        ++ " has a region marker on body line ".toList
        ++ Text.ofNat lineNumber ++ ": ".toList ++ line.quoted

end RegionSync.SectionFault
