import AdocLint.Fault
import AdocLint.Package.Readme

/-! The metadata of the distribution and the line or lines each query on it prints. -/

namespace AdocLint.Package

structure Metadata where
  name : String
  version : String
  author : Option String := none
  authorEmail : Option String := none
  maintainer : Option String := none
  maintainerEmail : Option String := none
  url : Option String := none
  license : Option String := none
  description : Option String := none
  longDescription : Option String := none
  keywords : List String := []
  platforms : Option (List String) := none
  classifiers : List String := []
  provides : List String := []
  requires : List String := []
  obsoletes : List String := []

def distribution : Metadata :=
  { name := "asciidoc-linter"
    version := "0.1.0"
    author := some "Your Name"
    authorEmail := some "Project Author <author@example.com>"
    url := some "https://github.com/yourusername/asciidoc-linter"
    license := some "MIT"
    description := some "A linter for AsciiDoc files"
    longDescription := some readme
    keywords := ["asciidoc", "linter", "documentation"]
    classifiers := [
      "Development Status :: 3 - Alpha",
      "Intended Audience :: Developers",
      "Topic :: Software Development :: Documentation",
      "Programming Language :: Python :: 3.8",
      "Programming Language :: Python :: 3.9",
      "Programming Language :: Python :: 3.10",
      "Programming Language :: Python :: 3.11",
      "Programming Language :: Python :: 3.12",
      "License :: OSI Approved :: MIT License"] }

inductive Query where
  | name | version | fullname | author | authorEmail | maintainer | maintainerEmail
  | contact | contactEmail | url | license | description | longDescription
  | platforms | classifiers | keywords | provides | requires | obsoletes
  deriving DecidableEq, Repr

def shown : Option String → String
  | some s => s
  | none => "None"

def firstGiven (a b : Option String) : Option String :=
  match a with
  | some s => if s.isEmpty then b else a
  | none => b

def Query.answer (m : Metadata) : Query → Except Fault String
  | .name => .ok m.name
  | .version => .ok m.version
  | .fullname => .ok (m.name ++ "-" ++ m.version)
  | .author => .ok (shown m.author)
  | .authorEmail => .ok (shown m.authorEmail)
  | .maintainer => .ok (shown m.maintainer)
  | .maintainerEmail => .ok (shown m.maintainerEmail)
  | .contact => .ok (shown (firstGiven m.maintainer m.author))
  | .contactEmail => .ok (shown (firstGiven m.maintainerEmail m.authorEmail))
  | .url => .ok (shown m.url)
  | .license => .ok (shown m.license)
  | .description => .ok (shown m.description)
  | .longDescription => .ok (shown m.longDescription)
  | .platforms =>
    match m.platforms with
    | some ps => .ok (",".intercalate ps)
    | none => .error (.wrongType "can only join an iterable")
  | .keywords => .ok (",".intercalate m.keywords)
  | .classifiers => .ok ("\n".intercalate m.classifiers)
  | .provides => .ok ("\n".intercalate m.provides)
  | .requires => .ok ("\n".intercalate m.requires)
  | .obsoletes => .ok ("\n".intercalate m.obsoletes)

end AdocLint.Package
