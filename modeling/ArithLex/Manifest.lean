import ArithLex.Catalogue

/-!
# The package manifest

What the lexer is distributed with: its name and version, who wrote it, what it needs.
-/

set_option autoImplicit false

namespace ArithLex

/-- Named lists of requirements. -/
abbrev Extras := List (String × List String)

inductive FieldValue where
  | text (s : String)
  | flag (b : Bool)
  | texts (ss : List String)
  | extras (groups : Extras)
deriving DecidableEq

/-- What is known of a package. -/
structure Manifest where
  name : String
  version : String
  author : String
  license : String
  description : String
  longDescription : String
  longDescriptionType : String
  packages : List String
  classifiers : List String
  keywords : List String
  languageVersion : String
  requirements : List String
  extras : Extras
  includesData : Bool
  zipSafe : Bool
deriving DecidableEq

namespace Manifest

/-- The fields of a manifest by name, in the order of names. -/
def fields (m : Manifest) : List (String × FieldValue) :=
  [("author", .text m.author),
    ("classifiers", .texts m.classifiers),
    ("description", .text m.description),
    ("extras_require", .extras m.extras),
    ("include_package_data", .flag m.includesData),
    ("install_requires", .texts m.requirements),
    ("keywords", .texts m.keywords),
    ("license", .text m.license),
    ("long_description", .text m.longDescription),
    ("long_description_content_type", .text m.longDescriptionType),
    ("name", .text m.name),
    ("packages", .texts m.packages),
    ("python_requires", .text m.languageVersion),
    ("version", .text m.version),
    ("zip_safe", .flag m.zipSafe)]

def fieldNames (m : Manifest) : List String := m.fields.map Prod.fst

def field (m : Manifest) (name : String) : Except LookupError FieldValue :=
  match m.fields.lookup name with
  | some v => .ok v
  | none => .error (.unknownName name)

theorem field_eq_error_iff {m : Manifest} {name : String} :
    m.field name = .error (.unknownName name) ↔ name ∉ m.fieldNames := by
  unfold field
  split
  · rename_i v h
    obtain ⟨before, after, hsplit, _⟩ := List.lookup_eq_some_iff.1 h
    simp [fieldNames, hsplit]
  · rename_i h
    rw [List.lookup_eq_none_iff] at h
    simp only [fieldNames, List.mem_map, not_exists, not_and, true_iff]
    intro p hp heq
    simpa [heq] using h p hp

end Manifest

def readme : List String :=
  ["# talc",
    "",
    "Lexer for the TAL arithmetic-expression compiler.",
    "",
    "```python",
    "from talc.lexer import Lexer",
    "",
    "lexer = Lexer(\"(4 * 5) + 12\")",
    "while (token := lexer.next_token()) is not None:",
    "    print(token)",
    "```",
    "",
    "Tokens cover integers, `+ - * /`, parentheses and single whitespace",
    "characters. Anything else becomes an `INVALID` token and a diagnostic on",
    "`lexer.errors`; lexing always runs to the `EOF` token, after which",
    "`next_token()` returns `None`.",
    "",
    "Run the tests with `pytest` or `python run_tests.py`."]

def manifest : Manifest where
  name := "talc"
  version := "0.1.0"
  author := "xwest"
  license := "MIT"
  description := "Lexer for the TAL arithmetic-expression compiler"
  longDescription := String.join (readme.map (· ++ "\n"))
  longDescriptionType := "text/markdown"
  packages := ["talc", "talc.lexer"]
  classifiers :=
    ["Development Status :: 2 - Pre-Alpha",
      "Intended Audience :: Developers",
      "License :: OSI Approved :: MIT License",
      "Operating System :: OS Independent",
      "Programming Language :: Python :: 3",
      "Programming Language :: Python :: 3.8",
      "Programming Language :: Python :: 3.9",
      "Programming Language :: Python :: 3.10",
      "Programming Language :: Python :: 3.11",
      "Programming Language :: Python :: 3.12",
      "Topic :: Software Development :: Compilers",
      "Topic :: Software Development :: Libraries :: Python Modules"]
  keywords := ["compiler", "lexer", "tokenizer", "arithmetic", "expressions"]
  languageVersion := ">=3.8"
  requirements := []
  extras :=
    [("dev", ["pytest>=7.4.0", "pytest-cov>=4.1.0", "black>=23.3.0", "flake8>=6.0.0",
      "mypy>=1.4.0", "isort>=5.12.0"])]
  includesData := true
  zipSafe := false

def versionInfo : List String := [manifest.version, manifest.author, manifest.license]

end ArithLex
