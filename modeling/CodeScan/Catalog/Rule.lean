import CodeScan.Pattern.Search
import CodeScan.Record.Checked

/-!
# Rules

A rule looks for one insecure habit: its pattern is tried on one line at a time, and the rest of it
is what a finding tells the reader.  Rules fall into a closed set of categories.
-/

namespace CodeScan

/-- The classes of rules and findings. -/
inductive Category where
  | codeInjection
  | crossSiteScripting
  | cryptography
  | sensitiveData
  | authentication
  | inputValidation
  | fileSystem
  | configuration
  | codeQuality
  deriving DecidableEq

namespace Category

/-- All categories, in their fixed order. -/
def all : List Category :=
  [.codeInjection, .crossSiteScripting, .cryptography, .sensitiveData, .authentication,
   .inputValidation, .fileSystem, .configuration, .codeQuality]

/-- The name of a category. -/
def label : Category → Text
  | .codeInjection => "Code Injection"
  | .crossSiteScripting => "Cross-Site Scripting"
  | .cryptography => "Cryptography"
  | .sensitiveData => "Sensitive Data"
  | .authentication => "Authentication"
  | .inputValidation => "Input Validation"
  | .fileSystem => "File System"
  | .configuration => "Configuration"
  | .codeQuality => "Code Quality"

/-- The constant that a category shows as in a message. -/
def shown : Category → Text
  | .codeInjection => "Category.code_injection"
  | .crossSiteScripting => "Category.cross_site_scripting"
  | .cryptography => "Category.cryptography"
  | .sensitiveData => "Category.sensitive_data"
  | .authentication => "Category.authentication"
  | .inputValidation => "Category.input_validation"
  | .fileSystem => "Category.file_system"
  | .configuration => "Category.configuration"
  | .codeQuality => "Category.code_quality"

/-- The category of a name. -/
def ofLabel? (t : Text) : Option Category := all.find? fun category => category.label == t

/-- Reads a category by its name. -/
def read : Reader Category := fun input =>
  let found := match input with
    | .string t => ofLabel? t
    | _ => none
  match found with
  | some category => .ok category
  | none => .issue (.notListed (all.map label)) input

end Category

/-- A rule of the catalog. -/
structure Rule where
  /-- A name that tells the rule from the others of its catalog. -/
  id : Text
  /-- The pattern as it was written. -/
  source : Text
  /-- The pattern that a line is searched for. -/
  pattern : Pattern
  /-- What the issue is called. -/
  kind : Text
  category : Category
  /-- What the issue is. -/
  description : Text
  /-- Why it matters. -/
  explanation : Text
  /-- How to avoid it. -/
  mitigation : Text
  /-- A safe alternative. -/
  safeCode : Text

/-- Whether the rule finds its pattern in a line. -/
def Rule.matchesLine (rule : Rule) (line : List Char) : Bool := rule.pattern.search line

end CodeScan
