import SolidityAtlas.Text.Character

/-! Names that mean something by themselves: elementary types, keywords, built-in calls and widely
used libraries. The tables decide which names in source text can be types, calls or variables of the
workspace.
-/

namespace SolidityAtlas.Vocabulary

/-- The integer types of every size from 8 to 256 bits, signed or not. -/
def sizedIntegers (stem : String) : List String :=
  (List.range 32).map fun k => stem ++ toString (8 * (k + 1))

/-- The types that are also written as casts. -/
def castTypes : List String :=
  ["address", "bool", "string", "bytes", "uint", "int"] ++ sizedIntegers "uint" ++
    sizedIntegers "int" ++ (List.range 32).map fun k => "bytes" ++ toString (k + 1)

/-- The names of elementary types, and of what stands for a type without being declared. -/
def builtinTypes : List String :=
  ["function", "unknown", "void", "var"] ++ castTypes

/-- Keywords, globals and qualifiers, none of which is the name of a type or variable. -/
def reservedNames : List String :=
  ["require", "assert", "revert", "keccak256", "sha256", "sha3", "ripemd160", "ecrecover", "addmod",
   "mulmod", "selfdestruct", "blockhash", "gasleft", "Error", "Panic", "abi", "block", "msg", "tx",
   "this", "super", "type", "true", "false", "if", "else", "for", "while", "do", "return", "emit",
   "new", "delete", "memory", "storage", "calldata", "public", "private", "internal", "external",
   "pure", "view", "payable", "constant", "immutable", "virtual", "override"]

/-- Calls that are built in, or that commonly go to tokens and pools outside the workspace. -/
def outsideCalls : List String :=
  ["require", "assert", "revert", "keccak256", "sha256", "sha3", "ripemd160", "ecrecover", "addmod",
   "mulmod", "selfdestruct", "blockhash", "gasleft", "type", "abi", "push", "pop", "transfer",
   "send", "call", "delegatecall", "staticcall", "encode", "encodePacked", "encodeWithSelector",
   "encodeWithSignature", "encodeCall", "decode", "length", "balance", "code", "codehash",
   "safeApprove", "safeTransfer", "safeTransferFrom", "safeIncreaseAllowance", "approve",
   "transferFrom", "allowance", "balanceOf", "totalSupply", "mint", "burn", "deposit", "withdraw",
   "borrow", "repay", "supply", "claim", "stake", "unstake"]

/-- Keywords that may stand in front of a parenthesis without being called. -/
def callLikeKeywords : List String :=
  ["if", "else", "for", "while", "do", "return", "emit", "new", "delete", "try", "catch", "break",
   "continue", "returns", "function", "modifier"]

/-- Library and helper types that everyone knows. -/
def wellKnownTypes : List String :=
  ["SafeERC20", "SafeMath", "Address", "Strings", "Math", "ECDSA", "MerkleProof", "EnumerableSet",
   "EnumerableMap", "Error", "Panic", "Console"]

/-- Whether a name is an elementary type in any case. -/
def isElementary (name : String) : Bool :=
  builtinTypes.contains (String.ofList (name.toList.map Text.asciiLower))

/-- Interfaces are named by a capital I and another capital. -/
def isInterfaceName (name : String) : Bool :=
  match name.toList with
  | 'I' :: second :: _ => second.isUpper
  | _ => false

/-- Whether a type name is declared by users: not elementary, not reserved, no known library. -/
def isDeclarableType (name : String) : Bool :=
  !isElementary name && !reservedNames.contains name && !wellKnownTypes.contains name

/-- Whether a name can name a variable. -/
def canNameVariable (name : String) : Bool :=
  !reservedNames.contains name && !callLikeKeywords.contains name

end SolidityAtlas.Vocabulary
