import WorkflowRelease.Failure
import WorkflowRelease.Registry.Artifact

/-!
# Catalogs

The registries of a service, one for each category (`RegistryCatalog`), and the file that they are
read from (`CatalogFile`). A file that counts as unset is an empty catalog.
-/

namespace WorkflowRelease

structure Catalog (ν : Type) where
  rulePacks : Registry ν := {}
  agentProfiles : Registry ν := {}
  parameterSets : Registry ν := {}
  parameterItems : List ParameterItem := []
  /-- The latest first. -/
  dataConnectors : List DataConnector := []
deriving DecidableEq

/-! ## Entries of a file -/

open Reader

/-- A row of artifacts reads the same in every category. -/
def Artifact.ofFields (o : Fields) : Checked (Artifact Int) :=
  Artifact.mk
    <$> o.read ["code"] nonempty
    <*> o.readOr ["version"] 1 (integerBetween (some 1) none)
    <*> (o.readOption ["owner_user_id"] text).map Party.ofId?
    <*> o.readOr ["template_source"] .isPrivate (choice TemplateSource)
    <*> o.readOr ["is_active"] true boolean

def Artifact.reader : Reader (Artifact Int) := record "ArtifactEntry" Artifact.ofFields

/-- A parameter set with the codes of its parameters. -/
structure ParameterSet where
  artifact : Artifact Int
  items : List String := []
deriving DecidableEq

def ParameterSet.ofFields (o : Fields) : Checked ParameterSet :=
  ParameterSet.mk <$> Artifact.ofFields o <*> o.readOr ["items"] [] (list text)

def ParameterSet.reader : Reader ParameterSet := record "ParameterSetEntry" ParameterSet.ofFields

/-- The parameters of a set, each one as active as the set. -/
def ParameterSet.parameters (s : ParameterSet) : List ParameterItem :=
  s.items.map fun item => ⟨item, s.artifact.code, s.artifact.isActive⟩

def DataConnector.ofFields (o : Fields) : Checked DataConnector :=
  DataConnector.mk <$> o.read ["code"] nonempty <*> o.readOr ["is_active"] true boolean

def DataConnector.reader : Reader DataConnector := record "ConnectorEntry" DataConnector.ofFields

namespace Catalog

/-- The catalog of the rows of a file (`build_catalog`). -/
def ofRows (packs profiles : List (Artifact Int)) (sets : List ParameterSet)
    (connectors : List DataConnector) : Catalog Int where
  rulePacks := .ofList packs
  agentProfiles := .ofList profiles
  parameterSets := .ofList (sets.map (·.artifact))
  parameterItems := sets.flatMap (·.parameters)
  dataConnectors := connectors.reverse

def ofFields (o : Fields) : Checked (Catalog Int) :=
  ofRows
    <$> o.readOr ["rule_packs"] [] (list Artifact.reader)
    <*> o.readOr ["agent_profiles"] [] (list Artifact.reader)
    <*> o.readOr ["parameter_sets"] [] (list ParameterSet.reader)
    <*> o.readOr ["data_connectors"] [] (list DataConnector.reader)

/-- Reads the catalog of a file (`load_registry_catalog`). -/
def read (file : Json) : Checked (Catalog Int) :=
  record "CatalogFile" ofFields (if file.isFalsy then .object [] else file)

/-- The catalog with all version numbers changed. -/
def map {ν μ : Type} (f : ν → μ) (c : Catalog ν) : Catalog μ where
  rulePacks := c.rulePacks.map f
  agentProfiles := c.agentProfiles.map f
  parameterSets := c.parameterSets.map f
  parameterItems := c.parameterItems
  dataConnectors := c.dataConnectors

/-- What is said about a file that is no catalog. -/
def refusal : Failure := .invalid (.text "Invalid registry catalog: ") (.text "catalog")

end Catalog

end WorkflowRelease
