import AdocLint.Document

/-! Synthetic documents for measured runs, each a function of its size. -/

namespace AdocLint.Workload

def indexes (n : Int) : List Nat := List.range n.toNat

def joinLines (lines : List String) : String := "\n".intercalate lines

def mixedLine (i : Nat) : String :=
  match i % 7 with
  | 0 => s!"= Title {i}"
  | 1 => s!"== Section {i}"
  | 2 => s!"=== Subsection {i}"
  | 3 => s!"Paragraph {i} with trailing blanks  "
  | 4 => ""
  | 5 => s!"* List item {i}"
  | _ => s!"Paragraph {i} with image:picture{i}.png[] inline"

def mixedText (n : Int) : String := joinLines ((indexes n).map mixedLine)

def headingLine (i : Nat) : String :=
  match i % 6 with
  | 0 => "= Document Title"
  | 1 => ""
  | 2 => "=== Skipped Level"
  | 3 => "==missing space"
  | 4 => "===== deep lowercase"
  | _ => ""

def blockMarkers : List String := ["----", "====", "****", "....", "____", "|===", "////", "++++"]

def blockLines (i : Nat) : List String :=
  let d := blockMarkers.getD (i % 8) "----"
  [s!"Text before block {i}", d, s!"content {i}"] ++ (if i % 2 == 0 then [d] else []) ++
    [s!"Text after block {i}"]

def spacingCycle : List String :=
  ["NOTE: Admonition directly after text", "Paragraph with trailing spaces   ",
    "Regular paragraph text.", "", "*Missing space after marker", "Line with\ttab character",
    "==Missing space after equals", "Text with a trailing space ", "", "",
    "Text after two empty lines.", "-Dash item without space", ".Dot item without space",
    "Another line with\ttab", "   ", "== Proper Section Title", "",
    "Section text with trailing space ", "Plain closing text.", "Last line of the cycle."]

def spacingLine (i : Nat) : String := spacingCycle.getD (i % 20) ""

def existingImage : String := "/tmp/workload/existing.png"

def imageLine (i : Nat) : String :=
  match i % 6 with
  | 0 => "image::" ++ existingImage ++ "[Existing diagram]"
  | 1 => s!"image::missing{i}.png[]"
  | 2 => s!"image::small{i}.png[Tiny]"
  | 3 => s!"image::https://example.com/pic{i}.png[Remote picture]"
  | 4 => s!"Inline image:icon{i}.png[] beside image:https://example.com/badge{i}.png[]"
  | _ => s!"image::https://example.com/photo{i}.jpg[Photo of item, width=300]"

def formatCycle : List String :=
  ["# Markdown heading", "1. First numbered item", "*Term*: definition text",
    "== Title \x7bcounter:step\x7d", "> Quoted text", "See [docs](https://example.com)", "----",
    "# comment inside the listing", "1. not a list item", "*not*: a term", "> not a quotation",
    "[not](a-link)", "----", "", "\x60\x60\x60python", "![diagram](img.png)",
    "**Bold term**: text", "2. Second numbered item", "## Sub heading", "\x60\x60\x60",
    "Plain paragraph text.", "- *Term*: list definition",
    "=== Counter \x7bcounter2:index\x7d", ""]

def formatLine (i : Nat) : String := formatCycle.getD (i % 24) ""

def tableUnit (j : Nat) : List String :=
  [s!".Table {j}", "| Name | Value |", "|------|-------|", s!"| key{j} | {j} |",
    s!"| other{j} | {j * 2} |", "", "|===", "|Name |Value", "|a |1 |x", "|b", "|* item |2",
    "|c |3 |y |z", "|==="]

def tableLines (n : Int) : List String := (indexes n).flatMap tableUnit

def sectionLines : List String :=
  ["", "== Section Title", "", "# Markdown heading", "", "### Markdown heading", "",
    "See [guide](guide.adoc) first", "",
    "Trailing space  ", "Tab\there", "*item without space", ".item without space",
    "More trailing space ", "![logo](logo.png)", "\x60\x60\x60", "NOTE: Directly after text", "",
    "**item without space", "Another\ttab", "Trailing again ", "## Markdown subheading",
    "\x60\x60\x60", "-item without space", "#### Deep heading",
    "Read [a](a.adoc) and [b](b.adoc)", ""] ++
    (List.range 8).flatMap (fun _ => ["Closing paragraph text.", ""]) ++
    ["Plain text before the table.", "| Name | Value |", "|------|-------|", "| alpha | 1 |", "",
      "== Counter \x7bcounter:step\x7d in a title", "", "See [more](more.adoc)", "",
      "Final paragraph text.", "More closing text.", ""]

def sectionText (n : Int) : String := joinLines ((indexes n).flatMap fun _ => sectionLines)

end AdocLint.Workload
