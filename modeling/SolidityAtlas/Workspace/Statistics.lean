import SolidityAtlas.Workspace.Basic
import SolidityAtlas.Declaration.Record

/-! How many definitions of each sort a workspace holds. -/

namespace SolidityAtlas

/-- Counts of what a workspace holds. -/
structure Statistics where
  files : Nat
  contracts : Nat
  /-- Contracts by sort, in the order in which the sorts first occur. -/
  kinds : List (ContractKind × Nat)
  /-- Functions of contracts and at file level. -/
  functions : Nat
  /-- Structs and enums of contracts and at file level. -/
  types : Nat
  stateVariables : Nat
  deriving DecidableEq, Repr

/-- How many items all parts have together. -/
def total {α : Type} (size : α → Nat) : List α → Nat
  | [] => 0
  | part :: rest => size part + total size rest

/-- The counts of a workspace. -/
def Workspace.statistics (workspace : Workspace) : Statistics :=
  let files := workspace.files.items
  let contracts := workspace.contracts
  { files := files.length
    contracts := contracts.length
    kinds := (distinct (contracts.map (·.kind))).map fun kind =>
      (kind, contracts.countP fun contract => contract.kind = kind)
    functions :=
      total (·.functions.length) contracts + total (·.functions.length) files
    types :=
      total (fun contract => contract.structs.length + contract.enums.length) contracts +
        total (fun file => file.structs.length + file.enums.length) files
    stateVariables := total (·.stateVariables.length) contracts }

/-- A number in a record. -/
def Json.ofNat (n : Nat) : Json :=
  .int n

/-- A record of counts. -/
def Statistics.toJson (counts : Statistics) : Json :=
  .obj
    [("total_files", .ofNat counts.files),
     ("total_contracts", .ofNat counts.contracts),
     ("contract_kinds", .obj (counts.kinds.map fun (kind, count) => (kind.text, .ofNat count))),
     ("total_functions", .ofNat counts.functions),
     ("total_types", .ofNat counts.types),
     ("total_state_variables", .ofNat counts.stateVariables)]

end SolidityAtlas
