import EditionCheck.Edition

/-!
  Constructs newer than the first edition, and the failure that reports one.

  A `Feature` knows the edition that standardised it; a script for a target edition may use it
  when that edition is not newer than the target. A `Failure` says why a script was refused:
  either it does not parse, or it parses and uses a feature at some line and column.
-/

namespace EditionCheck

/-- A syntax construct that some edition added. -/
inductive Feature where
  | letConst | arrowFunction | classSyntax | templateLiteral | taggedTemplate | destructuring
  | defaultValue | restElement | spreadElement | forOf | generator | shorthandProperty
  | objectMethod | computedProperty | super | newTarget | binaryOctalLiteral | codePointEscape
  | stickyUnicodeFlag | moduleSyntax
  | exponentOperator
  | asyncFunction | trailingComma
  | objectRestSpread | asyncIteration | dotAllFlag | namedGroups | lookbehind
  | optionalCatchBinding
  | optionalChaining | nullishCoalescing | bigInt | dynamicImport | importMeta
  | logicalAssignment | numericSeparator
  | classFields | privateName | classStaticBlock | privateIn | indicesFlag
  | hashbang
  | unicodeSetsFlag
  | usingDeclaration
  deriving DecidableEq, Repr

namespace Feature

/-- Every feature, in the order of the editions. -/
def all : List Feature :=
  [letConst, arrowFunction, classSyntax, templateLiteral, taggedTemplate, destructuring,
    defaultValue, restElement, spreadElement, forOf, generator, shorthandProperty, objectMethod,
    computedProperty, super, newTarget, binaryOctalLiteral, codePointEscape, stickyUnicodeFlag,
    moduleSyntax, exponentOperator, asyncFunction, trailingComma, objectRestSpread,
    asyncIteration, dotAllFlag, namedGroups, lookbehind, optionalCatchBinding, optionalChaining,
    nullishCoalescing, bigInt, dynamicImport, importMeta, logicalAssignment, numericSeparator,
    classFields, privateName, classStaticBlock, privateIn, indicesFlag, hashbang,
    unicodeSetsFlag, usingDeclaration]

/-- The edition that standardised the feature, if a finished edition has it. -/
def introducedIn : Feature → Option Edition
  | letConst | arrowFunction | classSyntax | templateLiteral | taggedTemplate | destructuring
  | defaultValue | restElement | spreadElement | forOf | generator | shorthandProperty
  | objectMethod | computedProperty | super | newTarget | binaryOctalLiteral | codePointEscape
  | stickyUnicodeFlag | moduleSyntax => some .es2015
  | exponentOperator => some .es2016
  | asyncFunction | trailingComma => some .es2017
  | objectRestSpread | asyncIteration | dotAllFlag | namedGroups | lookbehind => some .es2018
  | optionalCatchBinding => some .es2019
  | optionalChaining | nullishCoalescing | bigInt | dynamicImport | importMeta => some .es2020
  | logicalAssignment | numericSeparator => some .es2021
  | classFields | privateName | classStaticBlock | privateIn | indicesFlag => some .es2022
  | hashbang => some .es2023
  | unicodeSetsFlag => some .es2024
  | usingDeclaration => none

/-- A script for `target` may use the feature. -/
def allowedIn (f : Feature) (target : Edition) : Bool :=
  match f.introducedIn with
  | some v => decide (v ≤ target)
  | none => false

/-- What one edition allows, every later one allows. -/
theorem allowedIn_mono {f : Feature} {a b : Edition} (h : a ≤ b) (hf : f.allowedIn a = true) :
    f.allowedIn b = true := by
  unfold allowedIn at *
  split at hf
  · exact decide_eq_true (Edition.le_trans (of_decide_eq_true hf) h)
  · cases hf

/-- The name shown to people, plural where that reads naturally. -/
def description : Feature → String
  | letConst => "let/const declarations"
  | arrowFunction => "arrow functions"
  | classSyntax => "classes"
  | templateLiteral => "template literals"
  | taggedTemplate => "tagged templates"
  | destructuring => "destructuring"
  | defaultValue => "default values in bindings"
  | restElement => "rest elements"
  | spreadElement => "spread syntax"
  | forOf => "for-of loops"
  | generator => "generators"
  | shorthandProperty => "shorthand properties"
  | objectMethod => "method definitions"
  | computedProperty => "computed property names"
  | super => "super"
  | newTarget => "new.target"
  | binaryOctalLiteral => "binary and octal literals"
  | codePointEscape => "unicode code point escapes"
  | stickyUnicodeFlag => "regular expression u/y flags"
  | moduleSyntax => "import/export declarations"
  | exponentOperator => "the exponent operator"
  | asyncFunction => "async functions"
  | trailingComma => "trailing commas in argument and parameter lists"
  | objectRestSpread => "object rest/spread"
  | asyncIteration => "async iteration"
  | dotAllFlag => "regular expression s flag"
  | namedGroups => "regular expression named groups"
  | lookbehind => "regular expression lookbehind"
  | optionalCatchBinding => "optional catch binding"
  | optionalChaining => "optional chaining"
  | nullishCoalescing => "nullish coalescing"
  | bigInt => "BigInt literals"
  | dynamicImport => "dynamic import()"
  | importMeta => "import.meta"
  | logicalAssignment => "logical assignment operators"
  | numericSeparator => "numeric separators"
  | classFields => "class fields"
  | privateName => "private names"
  | classStaticBlock => "class static blocks"
  | privateIn => "private brand checks"
  | indicesFlag => "regular expression d flag"
  | hashbang => "hashbang comments"
  | unicodeSetsFlag => "regular expression v flag"
  | usingDeclaration => "using declarations"

/-- The name used in data files. -/
def key : Feature → String
  | letConst => "let_const"
  | arrowFunction => "arrow_function"
  | classSyntax => "class"
  | templateLiteral => "template_literal"
  | taggedTemplate => "tagged_template"
  | destructuring => "destructuring"
  | defaultValue => "default_value"
  | restElement => "rest_element"
  | spreadElement => "spread_element"
  | forOf => "for_of"
  | generator => "generator"
  | shorthandProperty => "shorthand_property"
  | objectMethod => "object_method"
  | computedProperty => "computed_property"
  | super => "super"
  | newTarget => "new_target"
  | binaryOctalLiteral => "binary_octal_literal"
  | codePointEscape => "code_point_escape"
  | stickyUnicodeFlag => "reg_exp_sticky_unicode"
  | moduleSyntax => "module_syntax"
  | exponentOperator => "exponent_operator"
  | asyncFunction => "async_function"
  | trailingComma => "trailing_comma"
  | objectRestSpread => "object_rest_spread"
  | asyncIteration => "async_iteration"
  | dotAllFlag => "reg_exp_dot_all"
  | namedGroups => "reg_exp_named_groups"
  | lookbehind => "reg_exp_lookbehind"
  | optionalCatchBinding => "optional_catch_binding"
  | optionalChaining => "optional_chaining"
  | nullishCoalescing => "nullish_coalescing"
  | bigInt => "big_int"
  | dynamicImport => "dynamic_import"
  | importMeta => "import_meta"
  | logicalAssignment => "logical_assignment"
  | numericSeparator => "numeric_separator"
  | classFields => "class_fields"
  | privateName => "private_name"
  | classStaticBlock => "class_static_block"
  | privateIn => "private_in"
  | indicesFlag => "reg_exp_indices"
  | hashbang => "hashbang"
  | unicodeSetsFlag => "reg_exp_unicode_sets"
  | usingDeclaration => "using_declaration"

/-- The feature with a name used in data files. -/
def ofKey? (name : String) : Option Feature := all.find? (·.key == name)

/-- The description followed by the edition that standardised the feature. -/
def label (f : Feature) : String :=
  match f.introducedIn with
  | some v => f.description ++ " (" ++ v.label ++ ")"
  | none => f.description ++ " (not yet standard)"

end Feature

/-- Why a script was refused. -/
structure Failure where
  message : String
  /-- Set when the script parses and uses a construct newer than the target. -/
  feature : Option Feature
  line : Option Nat
  column : Option Nat
  deriving DecidableEq, Repr

namespace Failure

/-- The script does not parse. -/
def unparsable (message : String) : Failure := ⟨message, none, none, none⟩

/-- The script uses `f`, which is newer than `target`, at the given place. -/
def unsupported (f : Feature) (target : Edition) (line column : Nat) : Failure :=
  ⟨f.label ++ " not allowed in " ++ target.label, some f, some line, some column⟩

/-- The message, followed by the place as far as it is known. -/
def render (e : Failure) : String :=
  match e.line, e.column with
  | some line, some column => e.message ++ " at " ++ toString line ++ ":" ++ toString column
  | some line, none => e.message ++ " at line " ++ toString line
  | none, _ => e.message

end Failure
end EditionCheck
