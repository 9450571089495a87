import SeedStream.CommandLine.Run

/-!
# Upkeep of a project

Runs that belong to a project folder and take no options: a greeting that names the native source,
the check of the manifest that the project keeps, and the writing of that manifest.
-/

namespace SeedStream.CommandLine

/-- The manifest that a project keeps. -/
def keptManifest (m : Machine) : Path :=
  Path.resolve m.tree.working (Path.ofText "docs/reference_vectors.json")

/-- Greet and name the source that native mode uses. -/
def greet (m : Machine) : Outcome :=
  let (info, _) := SourceName.auto.describe m.environment
  .told m
    ["Initializing dual-mode random number environment...",
      "Native source: " ++ info.choice.name.text ++ " (" ++ info.reason ++ ")",
      "Seed 0 selects native randomness; any other seed selects xoshiro128**."]
    .success

/-- Check the manifest that the project keeps. -/
def checkKept (m : Machine) : Outcome :=
  let p := keptManifest m
  if m.tree.holds p then reportManifest m p else .told m [] (.failed (.noManifest p.text))

/-- Write the manifest that the project keeps, and print its path and its digest. -/
def captureKept [Memory] (m : Machine) : Outcome :=
  let p := keptManifest m
  match Manifest.write p Reference.defaultSeeds Reference.defaultCount m.tree with
  | (.error e, t) => ⟨[], .failed e, t, []⟩
  | (.ok (), t) =>
    match Digest.ofFile t p (.int Digest.defaultPiece) with
    | .error e => ⟨[p.text], .failed e, t, []⟩
    | .ok digest => ⟨[p.text, "sha256=" ++ digest], .success, t, []⟩

end SeedStream.CommandLine
