import MarginLending.Service.Snapshot
import MarginLending.Contract.Catalog

/-! Service operations on snapshot contracts: checking data against a contract, and loading a
snapshot that must meet its contract before it is read. -/

set_option autoImplicit false

namespace MarginLending.Service

open Data Contract

structure Loader where
  contract : Contract
  read : Value → Except Failure Value

def loaders : List (String × Loader) :=
  [("market_snapshot", ⟨marketSnapshot, fun v =>
      (Market.decode v).map Market.toValue |>.mapError Failure.invalid⟩),
   ("oracle_price_data", ⟨oraclePriceData, fun v =>
      (Reading.decode v).map Reading.toValue |>.mapError Failure.invalid⟩),
   ("oracle_guard_rails", ⟨oracleGuardRails, fun v =>
      (GuardRails.decode v).map GuardRails.toValue |>.mapError Failure.invalid⟩)]

/-- The contract named by the field `key`, looked up as a key. A name that names none is a
request the service cannot carry out when `checked`, and a missing key otherwise. -/
def loaderOf (req : Value) (key : String) (checked : Bool := false) : Except Failure Loader := do
  let name ← need req key
  match ← Value.lookupIn (loaders.map fun (n, l) => (Value.str n, l)) name with
  | some l => pure l
  | none =>
    if checked then throw (.request ("unknown contract " ++ name.quoted))
    else throw (.keyMissing name.quoted)

def packageDirs : List (List String × List String) :=
  [([], ["core", "gatekeeper", "logging", "oracle"]), (["core"], ["contracts", "domain", "math"]),
    (["core", "contracts"], ["schema"]), (["core", "contracts", "schema"], []),
    (["core", "domain"], []), (["core", "math"], []), (["gatekeeper"], []), (["logging"], []),
    (["oracle"], [])]

def packageName : String := "spot_margin"

/-- The directory reached from `dir` by the steps of a path, where `none` is the directory that
holds the package: `.` and empty steps stay, `..` climbs, and any other step must name a
subdirectory. -/
def walkDirs : Option (List String) → List String → Option (Option (List String))
  | dir, [] => some dir
  | dir, step :: rest =>
    if step = "" ∨ step = "." then walkDirs dir rest
    else if step = ".." then
      match dir with
      | some d => if d.isEmpty then walkDirs none rest else walkDirs (some d.dropLast) rest
      | none => none
    else match dir with
      | none => if step = packageName then walkDirs (some []) rest else none
      | some d =>
        if ((packageDirs.lookup d).getD []).contains step then walkDirs (some (d ++ [step])) rest
        else none

/-- The contract whose schema file `{name}.json` names, as a path from the schema directory;
an absolute path names no schema. -/
def schemaNamed? (name : String) : Option Loader :=
  if name.startsWith "/" then none else
  let steps := (name ++ ".json").splitOn "/"
  match walkDirs (some ["core", "contracts", "schema"]) steps.dropLast, steps.getLast? with
  | some (some ["core", "contracts", "schema"]), some file =>
    loaders.lookup (file.dropEnd 5).toString
  | _, _ => none

/-- A file path in its normal form: empty and `.` steps are dropped, a path that starts with
exactly two slashes keeps them, and one that starts with one or more than two slashes keeps
one. -/
def normalPath (path : String) : String :=
  let root :=
    if path.startsWith "//" ∧ !path.startsWith "///" then "//"
    else if path.startsWith "/" then "/" else ""
  let steps := (path.splitOn "/").filter fun s => s ≠ "" ∧ s ≠ "."
  if root.isEmpty ∧ steps.isEmpty then "." else root ++ "/".intercalate steps

def pairLe (a b : String × String) : Bool := a.1 < b.1 || (a.1 == b.1 && a.2 ≤ b.2)

def violationPairs (vs : List Violation) : List (String × String) :=
  ((vs.map fun v => (v.pathText, v.keyword)).mergeSort pairLe).eraseDups

def meets (c : Contract) (v : Value) : Except Failure Unit :=
  match violations c.schema v with
  | [] => .ok ()
  | x :: _ => .error (.contract x.pathText x.keyword)

/-- Loads a market as the service's `load` does for the market contract: the data must meet the
contract, and is then read. -/
def loadMarket (v : Value) : Except Failure Market := do
  meets marketSnapshot v
  (Market.decode v).mapError Failure.invalid

def contractAnswer (kind : String) (req : Value) : Except Failure Value := do
  match kind with
  | "load_schema" =>
    let name ← need req "name"
    match name with
    | .arr _ | .obj _ => throw (.unhashable name.kindName)
    | _ => pure ()
    let some l := schemaNamed? name.shown
      | throw (.schemaNotFound (normalPath (name.shown ++ ".json")))
    let c := l.contract
    pure (.obj [("title", .str c.title), ("required", .arr (c.required.map Value.str)),
      ("properties", .arr ((c.fieldNames.mergeSort fun a b => decide (a ≤ b)).map Value.str))])
  | "contract_check" =>
    let l ← loaderOf req "contract" true
    let vs := violations l.contract.schema (← need req "data")
    pure (.obj [("valid", .bool vs.isEmpty), ("errors", .arr ((violationPairs vs).map fun p =>
      .obj [("path", .str p.1), ("validator", .str p.2)]))])
  | "validate_contract" =>
    let l ← loaderOf req "contract"
    meets l.contract (← need req "data")
    pure (result .null)
  | _ =>
    let l ← loaderOf req "contract"
    let data ← need req "data"
    meets l.contract data
    pure (.obj [("model", ← l.read data)])

def contractOps : List String := ["load_schema", "contract_check", "validate_contract", "load"]

end MarginLending.Service
