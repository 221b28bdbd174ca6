import RegionSync.Registry.Configuration
import RegionSync.Text.Line

/-!
# The builtin registry

The registry that is used where no registry file is given.  It is read from a
text like any other, and the text is one that can be read.
-/

namespace RegionSync.Registry

namespace Builtin

/-- The lines of the builtin registry file. -/
def lines : List String :=
  [ "# Canonical CLAUDE.md sections owned by devkit.",
    "#",
    "# `devkit claude update` rewrites the body of every region whose name appears",
    "# here and leaves everything else in CLAUDE.md alone. Bump a section's version",
    "# whenever its body changes so that stamped documents show the drift.",
    "",
    "version: 1",
    "",
    "sections:",
    "  - name: devkit/overview",
    "    version: \"1.2.0\"",
    "    body: |",
    "      ## Project tooling",
    "",
    "      This repository uses devkit: shared lint rules, shared lint presets, and",
    "      a ledger of dependency decisions. Follow the conventions below; the lint",
    "      rules enforce most of them, and the rest are checked in review.",
    "",
    "  - name: devkit/lint-rules",
    "    version: \"1.1.0\"",
    "    body: |",
    "      ## Lint rules",
    "",
    "      - Run the linter before proposing a change and fix every error it reports.",
    "      - Do not silence a rule with an inline disable comment. If a rule is wrong",
    "        for a case, say so and explain why instead.",
    "      - Prefer the shared presets over per-file overrides.",
    "",
    "  - name: devkit/dependencies",
    "    version: \"1.0.1\"",
    "    body: |",
    "      ## Dependencies",
    "",
    "      - Check the decision ledger before adding, upgrading or removing a",
    "        dependency. A rejected package stays rejected until the ledger says",
    "        otherwise.",
    "      - Record every new dependency decision in the ledger with its reason.",
    "",
    "  - name: devkit/workflow",
    "    version: \"1.0.0\"",
    "    body: |",
    "      ## Keeping this file current",
    "",
    "      Sections between `BEGIN` and `END` markers are managed by",
    "      `devkit claude update`; edit them in the devkit registry, not here.",
    "      Anything outside the markers is yours and is never touched.",
    "" ]

/-- The text of the builtin registry file. -/
def text : Text :=
  Text.joinLines (lines.map String.toList)

theorem map_toList_cons
    {line : Text}
    {rest : List String}
    {others : List Text}
    (below : rest.map String.toList = others) :
    (String.ofList line :: rest).map String.toList = line :: others := by
  rw [List.map_cons, String.toList_ofList, below]

theorem isSome_ofText : (ofText text).toOption.isSome = true := by
  -- The evaluator is slow to take a literal apart, so the lines are spelled
  -- out first.
  have spelled :
      ∃ spelling,
        lines.map String.toList = spelling ∧
          (ofText (Text.joinLines spelling)).toOption.isSome = true := by
    apply Exists.intro
    apply And.intro
    · unfold lines
      repeat
        first
        | exact List.map_nil
        | apply map_toList_cons
    · decide +kernel
  rcases spelled with ⟨_, rfl, accepted⟩
  exact accepted

end Builtin

/-- The registry to use where there is no other. -/
def builtin : Registry :=
  (ofText Builtin.text).toOption.get Builtin.isSome_ofText

/-- The builtin registry is what its text describes. -/
theorem ofText_builtin : ofText Builtin.text = .ok builtin := by
  have kept : (ofText Builtin.text).toOption = some builtin :=
    (Option.some_get Builtin.isSome_ofText).symm
  cases read : ofText Builtin.text with
  | error fault =>
      rw [read] at kept
      cases kept
  | ok registry =>
      rw [read] at kept
      exact congrArg Except.ok (Option.some.inj kept)

end RegionSync.Registry
