import ViewTree.Data.Query
import ViewTree.Handler.Policy
import ViewTree.Json.Reader

/-!
# Settings — what a renderer can be told

Limits, the names of the two directives, the policy for handlers and the elements that the host
shows by itself.  A document gives any of them; what it leaves out has its default.  The three
limits have to be at least 1.
-/

namespace ViewTree

/-- The settings of a renderer. -/
structure Settings where
  maxDepth : UInt64
  /-- The limit of a query that gives none. -/
  defaultLimit : UInt64
  /-- How often a render may be settled and repeated. -/
  maxSettleRounds : UInt64
  /-- The elements of the host, in place of the default ones. -/
  elementNames : Option (List String)
  policy : Policy
  /-- The component that shows one of two nodes. -/
  conditionalName : String
  /-- The component that waits for data. -/
  dataLoaderName : String

/-- The limits that have to be at least 1. -/
inductive LimitField where
  | maxDepth
  | defaultLimit
  | maxSettleRounds
deriving DecidableEq, Repr

/-- The name of a limit in a document. -/
def LimitField.name : LimitField → String
  | .maxDepth => "max_depth"
  | .defaultLimit => "default_limit"
  | .maxSettleRounds => "max_settle_rounds"

/-- Why a text gives no settings. -/
inductive SettingsFault where
  /-- It is no document, or not one of settings. -/
  | parse
  | zero (field : LimitField)
deriving DecidableEq, Repr

/-- The message of a fault, up to the reader's own account of what is wrong with the text. -/
def SettingsFault.message : SettingsFault → String
  | .parse => "invalid render config"
  | .zero field => "render config field '" ++ field.name ++ "' must be at least 1"

/-! ### The elements of the host -/

/-- Whether a name can be that of an element: a small letter, then small letters and digits. -/
def isElementName (name : String) : Bool :=
  match name.toList with
  | [] => false
  | c :: cs => c.isLower && cs.all fun c => c.isLower || c.isDigit

/-- The elements of the host unless the settings name others. -/
def defaultElementNames : List String :=
  ["div", "span", "p", "a", "h1", "h2", "h3", "h4", "h5", "h6", "ul", "ol", "li", "section",
    "article", "header", "footer", "main", "nav", "aside", "form", "label", "input", "textarea",
    "select", "option", "button", "img", "table", "thead", "tbody", "tr", "th", "td", "pre",
    "code", "strong", "em", "small", "br", "hr"]

/-- The elements among some names; other names are skipped. -/
def elementsOf (names : List String) : Names :=
  Names.ofList (names.filter isElementName)

namespace Settings

/-- The settings of a document that gives none. -/
def default : Settings where
  maxDepth := 64
  defaultLimit := Query.defaultLimit
  maxSettleRounds := 8
  elementNames := none
  policy := Policy.default
  conditionalName := "Conditional"
  dataLoaderName := "DataLoader"

instance : Inhabited Settings := ⟨default⟩

/-- The elements that the host shows by itself. -/
def elements (c : Settings) : Names :=
  elementsOf (c.elementNames.getD defaultElementNames)

/-- Whether the host shows an element by itself. -/
def isElement (c : Settings) (name : String) : Bool :=
  isElementName name && (c.elementNames.getD defaultElementNames).contains name

theorem mem_elements {c : Settings} {name : String} :
    name ∈ c.elements ↔ c.isElement name = true := by
  simp [elements, elementsOf, isElement, and_comm]

/-- The first limit that is 0. -/
def fault? (c : Settings) : Option SettingsFault :=
  if c.maxDepth = 0 then some (.zero .maxDepth)
  else if c.defaultLimit = 0 then some (.zero .defaultLimit)
  else if c.maxSettleRounds = 0 then some (.zero .maxSettleRounds)
  else none

/-- The settings as a document. -/
def toJson (c : Settings) : Json :=
  .object (
    [("max_depth", .int c.maxDepth.toNat), ("default_limit", .int c.defaultLimit.toNat),
      ("max_settle_rounds", .int c.maxSettleRounds.toNat)]
      ++ (c.elementNames.map fun names => ("primitives", Json.array (names.map .text))).toList
      ++ c.policy.toEntries
      ++ [("conditional_name", .text c.conditionalName),
        ("data_loader_name", .text c.dataLoaderName)])

/-- The settings that the fields of a document give. -/
def ofEntries (entries : List (String × Json)) : Except Json.Mismatch Settings := do
  let maxDepth ← Json.field "max_depth" [] Json.asWord entries
  let defaultLimit ← Json.field "default_limit" [] Json.asWord entries
  let maxSettleRounds ← Json.field "max_settle_rounds" [] Json.asWord entries
  let elementNames ← Json.field "primitives" [] (Json.asOptional Json.asTexts) entries
  let conditionalName ← Json.field "conditional_name" [] Json.asText entries
  let dataLoaderName ← Json.field "data_loader_name" [] Json.asText entries
  let policy ← Policy.ofEntries entries
  return {
    maxDepth := maxDepth.getD default.maxDepth
    defaultLimit := defaultLimit.getD default.defaultLimit
    maxSettleRounds := maxSettleRounds.getD default.maxSettleRounds
    elementNames := elementNames.join
    policy := policy
    conditionalName := conditionalName.getD default.conditionalName
    dataLoaderName := dataLoaderName.getD default.dataLoaderName }

/-- The settings that a document gives, which has to be an object. -/
def ofJson : Json → Except Json.Mismatch Settings
  | .object entries => ofEntries entries
  | j => .error (.type j .table)

/-- The settings that a document gives, if no limit is 0. -/
def ofDocument (j : Json) : Except SettingsFault Settings :=
  match ofJson j with
  | .error _ => .error .parse
  | .ok c => match c.fault? with
    | none => .ok c
    | some fault => .error fault

/-- The settings that a text gives. -/
def parse (text : String) : Except SettingsFault Settings :=
  match Json.parse? Json.maxLevels text with
  | none => .error .parse
  | some j => ofDocument j

end Settings

end ViewTree
