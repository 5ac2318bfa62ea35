import ModularRouter.Proofs.Ast.Insertion
import ModularRouter.Proofs.Pruning

/-!
# Unknown nodes are inert

A compiler may put nodes into its trees that are of kinds not known here. Wherever such nodes are
put into a list of nodes, the tree is still read, and both analyses find what they found before
(`unknown_nodes_are_inert`).
-/

namespace ModularRouter

open Ast (Role Inserted SourceUnit unitsOfJson)
open Namespace (collectAssignments)
open Storage (extract)
open Relation (ReflTransGen)

/-- Let a value be read as a list of source files, and let any number of nodes of unknown kinds be
put into its lists: among the nodes of files and of contracts and among the statements of blocks,
those of assembly too, at any depth, be the structs on the way objects or lists of the values of
their fields. Then it is still read as a list of source files, and for every selection its dump and
its assignments are the same as before, errors included. -/
theorem unknown_nodes_are_inert (digest : Digest) {json more : Json} {units : List SourceUnit}
    (decodes : unitsOfJson json = some units)
    (inserted : ReflTransGen (Inserted (.list .unit)) json more) :
    ∃ others, unitsOfJson more = some others ∧ ∀ selection,
      extract others selection = extract units selection ∧
        collectAssignments digest others selection = collectAssignments digest units selection := by
  have same := Ast.read_eq_of_reflTransGen inserted
  rw [Ast.read_list_unit, Ast.read_list_unit, decodes, Option.map_some] at same
  obtain ⟨others, decoded, pruned⟩ := Option.map_eq_some_iff.1 same
  refine ⟨others, decoded, fun selection => ⟨?_, ?_⟩⟩
  · calc
      extract others selection = extract (others.map SourceUnit.pruned) selection :=
        (Storage.extract_map_pruned others selection).symm
      _ = extract (units.map SourceUnit.pruned) selection := by rw [pruned]
      _ = extract units selection := Storage.extract_map_pruned units selection
  · calc
      collectAssignments digest others selection =
          collectAssignments digest (others.map SourceUnit.pruned) selection :=
        (Namespace.collectAssignments_map_pruned digest others selection).symm
      _ = collectAssignments digest (units.map SourceUnit.pruned) selection := by rw [pruned]
      _ = collectAssignments digest units selection :=
        Namespace.collectAssignments_map_pruned digest units selection

/-! ## A vault -/

namespace Vault

open Ast

/-- The member of the struct of a vault. -/
def ownerJson : Json :=
  .obj [("id", .ofNat 3), ("name", .str "owner"),
    ("typeName", .obj [("nodeType", .str "ElementaryTypeName"), ("name", .str "address")])]

/-- The struct of a vault. -/
def dataJson : Json :=
  .obj [("nodeType", .str "StructDefinition"), ("id", .ofNat 2), ("name", .str "Data"),
    ("members", .arr [ownerJson])]

/-- The assignment by which a vault is anchored. -/
def anchorJson : Json :=
  .obj [("nodeType", .str "YulAssignment"),
    ("variableNames", .arr [.obj [("name", .str "store.slot")]]),
    ("value", .obj [("nodeType", .str "YulLiteral"), ("kind", .str "number"),
      ("value", .str "0x01")])]

/-- The block of assembly with the assignment, written as a list, with nodes before the
assignment. -/
def blockJson (inAssembly : List Json) : Json :=
  (Json.Hole.entry [] []).fill (.arr (inAssembly ++ [anchorJson]))

/-- The statement with the block. -/
def assemblyJson (inAssembly : List Json) : Json :=
  (Json.Hole.field [("nodeType", .str "InlineAssembly")] "AST" []).fill (blockJson inAssembly)

/-- The body of the function, with nodes before the statement. -/
def bodyJson (inBody inAssembly : List Json) : Json :=
  (Json.Hole.field [] "statements" []).fill (.arr (inBody ++ [assemblyJson inAssembly]))

/-- The function with its body, written as a list. -/
def loadJson (inBody inAssembly : List Json) : Json :=
  (Json.Hole.entry [.str "FunctionDefinition", .ofNat 4, .str "load"] []).fill
    (bodyJson inBody inAssembly)

/-- The library with the function and the struct, with nodes before them. -/
def libraryJson (inLibrary inBody inAssembly : List Json) : Json :=
  (Json.Hole.field [("nodeType", .str "ContractDefinition"), ("id", .ofNat 1),
      ("name", .str "Vault"), ("contractKind", .str "library")] "nodes" []).fill
    (.arr (inLibrary ++ [loadJson inBody inAssembly, dataJson]))

/-- The file with the library, written as a list, with nodes before the library. -/
def fileJson (inFile inLibrary inBody inAssembly : List Json) : Json :=
  .arr [(Json.Hole.entry [.str "src/Vault.sol"] []).fill
    (.arr (inFile ++ [libraryJson inLibrary inBody inAssembly]))]

/-- The member as it is read. -/
def owner : VariableDeclaration :=
  ⟨3, "owner", some (.elementary "address"), false, none⟩

/-- The assignment as it is read. -/
def anchor : YulStatement :=
  .assignment ["store.slot"] (some (.literal "number" (some "0x01") none))

/-- The library as it is read. -/
def library : ContractDefinition :=
  ⟨1, "Vault", .library,
    [.function ⟨4, "load", some [.assembly [anchor]]⟩, .structure ⟨2, "Data", [owner]⟩]⟩

/-- The member is read. -/
theorem ofJson_ownerJson : VariableDeclaration.ofJson ownerJson = some owner := by
  show ((TypeName.ofJson (.obj [("nodeType", .str "ElementaryTypeName"),
    ("name", .str "address")])).map some).bind _ = _
  rw [TypeName.ofJson]
  rfl

/-- The assignment is read. -/
theorem ofJson_anchorJson : YulStatement.ofJson anchorJson = some anchor := by
  rw [YulStatement.ofJson]
  show YulStatement.ofKind? "YulAssignment" anchorJson = _
  rw [YulStatement.ofKind?]
  show ((YulExpression.ofJson (.obj [("nodeType", .str "YulLiteral"), ("kind", .str "number"),
    ("value", .str "0x01")])).map some).bind _ = _
  rw [YulExpression.ofJson]
  rfl

/-- The block of assembly is read. -/
theorem yulBlock?_blockJson : yulBlock? (blockJson []) = some [anchor] := by
  rw [yulBlock?]
  show [anchorJson].mapM YulStatement.ofJson = _
  rw [List.mapM_cons, ofJson_anchorJson]
  rfl

/-- The statement is read. -/
theorem ofJson_assemblyJson : Statement.ofJson (assemblyJson []) = some (.assembly [anchor]) := by
  rw [Statement.ofJson]
  show Statement.ofKind? "InlineAssembly" (assemblyJson []) = _
  rw [Statement.ofKind?]
  show (yulBlock? (blockJson [])).bind _ = _
  rw [yulBlock?_blockJson]
  rfl

/-- The body of the function is read. -/
theorem block?_bodyJson : block? (bodyJson [] []) = some [.assembly [anchor]] := by
  rw [block?]
  show [assemblyJson []].mapM Statement.ofJson = _
  rw [List.mapM_cons, ofJson_assemblyJson]
  rfl

/-- The function is read. -/
theorem ofJson_loadJson :
    ContractPart.ofJson (loadJson [] []) =
      some (.function ⟨4, "load", some [.assembly [anchor]]⟩) := by
  show (((block? (bodyJson [] [])).map some).bind _).bind _ = _
  rw [block?_bodyJson]
  rfl

/-- The struct is read. -/
theorem ofJson_dataJson :
    ContractPart.ofJson dataJson = some (.structure ⟨2, "Data", [owner]⟩) := by
  show (([ownerJson].mapM VariableDeclaration.ofJson).bind _).bind _ = _
  rw [List.mapM_cons, ofJson_ownerJson]
  rfl

/-- The library is read. -/
theorem ofJson_libraryJson : UnitPart.ofJson (libraryJson [] [] []) = some (.contract library) := by
  show (([loadJson [] [], dataJson].mapM ContractPart.ofJson).bind _).bind _ = _
  rw [List.mapM_cons, List.mapM_cons, ofJson_loadJson, ofJson_dataJson]
  rfl

/-- The file is read. -/
theorem unitsOfJson_fileJson :
    unitsOfJson (fileJson [] [] [] []) = some [⟨"src/Vault.sol", [.contract library]⟩] := by
  show (([libraryJson [] [] []].mapM UnitPart.ofJson).bind _).bind _ = _
  rw [List.mapM_cons, ofJson_libraryJson]
  rfl

/-- A node of some kind whose other fields hold what no known node holds there. -/
def strangeNode (kind : String) : Json :=
  .obj [("nodeType", .str kind), ("nodes", .bool true), ("body", .ofNat 7)]

/-- A strange node is unknown if its kind is. -/
theorem isUnknown_strangeNode {role : Role} {kinds : List (String × List String)} {kind : String}
    (listed : role.kinds? = some kinds) (fresh : kind ∉ kinds.map Prod.fst) :
    role.IsUnknown (strangeNode kind) :=
  ⟨rfl, ⟨_, rfl⟩, kinds, kind, listed, rfl, fresh⟩

/-- A node is put before others. -/
theorem inserted_before {role : Role} {node : Json} (unknown : role.IsUnknown node)
    (after : List Json) : Inserted (.list role) (.arr ([] ++ after)) (.arr ([node] ++ after)) :=
  @Inserted.here role [] after node unknown

section

variable {inLibrary inBody inAssembly moreInLibrary moreInBody moreInAssembly : List Json}

/-- A step inside the assembly is one inside the function. -/
theorem inserted_loadJson (inBody : List Json)
    (step : Inserted .statement (assemblyJson inAssembly) (assemblyJson moreInAssembly)) :
    Inserted .contractPart (loadJson inBody inAssembly) (loadJson inBody moreInAssembly) :=
  .field rfl rfl (List.mem_singleton_self _) <|
    .field rfl rfl (List.mem_singleton_self _) (.item step)

/-- A step inside the function is one inside the library. -/
theorem inserted_libraryJson (inLibrary : List Json)
    (step : Inserted .contractPart (loadJson inBody inAssembly)
      (loadJson moreInBody moreInAssembly)) :
    Inserted .unitPart (libraryJson inLibrary inBody inAssembly)
      (libraryJson inLibrary moreInBody moreInAssembly) :=
  .field rfl rfl (List.mem_singleton_self _) (.item step)

/-- A step inside the library is one inside the file. -/
theorem inserted_fileJson (inFile : List Json)
    (step : Inserted .unitPart (libraryJson inLibrary inBody inAssembly)
      (libraryJson moreInLibrary moreInBody moreInAssembly)) :
    Inserted (.list .unit) (fileJson inFile inLibrary inBody inAssembly)
      (fileJson inFile moreInLibrary moreInBody moreInAssembly) :=
  @Inserted.item _ [] [] _ _ (.field rfl rfl (List.mem_singleton_self _) (.item step))

end

/-- Strange nodes are put into the file, the library, the function and its assembly, one after the
other. -/
theorem reflTransGen_fileJson :
    ReflTransGen (Inserted (.list .unit)) (fileJson [] [] [] [])
      (fileJson [strangeNode "ErrorDefinition"] [strangeNode "UsingForDirective"]
        [strangeNode "EmitStatement"] [strangeNode "YulFunctionDefinition"]) := by
  have inFile : Inserted (.list .unit) (fileJson [] [] [] [])
      (fileJson [strangeNode "ErrorDefinition"] [] [] []) :=
    @Inserted.item _ [] [] _ _ (.field rfl rfl (List.mem_singleton_self _)
      (inserted_before (isUnknown_strangeNode rfl (by decide)) [libraryJson [] [] []]))
  have inLibrary : Inserted .unitPart (libraryJson [] [] [])
      (libraryJson [strangeNode "UsingForDirective"] [] []) :=
    .field rfl rfl (List.mem_singleton_self _)
      (inserted_before (isUnknown_strangeNode rfl (by decide)) [loadJson [] [], dataJson])
  have inBody : Inserted .contractPart (loadJson [] [])
      (loadJson [strangeNode "EmitStatement"] []) :=
    .field rfl rfl (List.mem_singleton_self _) (.field rfl rfl (List.mem_singleton_self _)
      (inserted_before (isUnknown_strangeNode rfl (by decide)) [assemblyJson []]))
  have inAssembly : Inserted .statement (assemblyJson [])
      (assemblyJson [strangeNode "YulFunctionDefinition"]) :=
    .field rfl rfl (List.mem_singleton_self _) (.field rfl rfl (List.mem_singleton_self _)
      (inserted_before (isUnknown_strangeNode rfl (by decide)) [anchorJson]))
  exact .head inFile <| .head (inserted_fileJson _ inLibrary) <|
    .head (inserted_fileJson _ (inserted_libraryJson _ inBody)) <|
      .single (inserted_fileJson _ (inserted_libraryJson _ (inserted_loadJson _ inAssembly)))

/-- The strange nodes make no difference to the vault. -/
theorem strange_nodes_in_vault :
    ∃ others, unitsOfJson (fileJson [strangeNode "ErrorDefinition"]
        [strangeNode "UsingForDirective"] [strangeNode "EmitStatement"]
        [strangeNode "YulFunctionDefinition"]) = some others ∧
      extract others .all = .ok ⟨[⟨.library, "Vault", [⟨"Data",
        [.builtin ⟨"address", some "owner", none, none, some 20⟩]⟩]⟩]⟩ ∧
      collectAssignments (fun _ => 0) others .all =
        .ok [⟨"src/Vault.sol", "Vault", "load", "store", .word 1⟩] := by
  obtain ⟨others, decoded, same⟩ := unknown_nodes_are_inert (fun _ => 0) unitsOfJson_fileJson
    reflTransGen_fileJson
  obtain ⟨layouts, assignments⟩ := same .all
  exact ⟨others, decoded, layouts.trans rfl, assignments.trans rfl⟩

end Vault

end ModularRouter
