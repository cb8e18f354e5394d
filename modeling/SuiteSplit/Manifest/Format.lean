import SuiteSplit.Manifest.Codec

/-!
The files that a batch is published in.
-/

namespace SuiteSplit

/-- A format of a batch file. -/
inductive ManifestFormat
  | json (layout : Json.Layout)
  | classList
deriving DecidableEq, Repr

namespace ManifestFormat

def standard : List ManifestFormat := [json .pretty, classList]

def fileName (format : ManifestFormat) (number : Nat) : String :=
  match format with
  | json _ => s!"batch-{number}.json"
  | classList => s!"batch-{number}.txt"

def render (format : ManifestFormat) (b : Batch) : String :=
  match format with
  | json layout => b.toJson.render layout ++ "\n"
  | classList => String.join (b.classnames.map (· ++ "\n"))

end ManifestFormat

end SuiteSplit
