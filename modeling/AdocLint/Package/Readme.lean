/-! The long description of the distribution: its read-me document, line by line. -/

namespace AdocLint.Package

def readmeLines : List String := [
  "= AsciiDoc Linter",
  ":icons: font",
  ":source-highlighter: rouge",
  ":experimental:",
  "",
  "image:https://img.shields.io/badge/license-MIT-blue.svg[License: MIT,link=https://opensource.org/licenses/MIT]",
  "image:https://img.shields.io/badge/python-3.8+-blue.svg[Python Version]",
  "image:https://img.shields.io/badge/test--coverage-95%25-green.svg[Test Coverage]",
  "image:https://img.shields.io/badge/tests-97%25-green.svg[Test Success Rate]",
  "",
  "A Python-based linter for AsciiDoc files that helps maintain consistent documentation quality and style.",
  "Part of the docToolchain project.",
  "",
  "== About",
  "",
  "AsciiDoc Linter is a command-line tool that checks your AsciiDoc files for common issues and style violations.",
  "It helps maintain consistent documentation by enforcing rules for heading structure, formatting, whitespace, and image usage.",
  "",
  "[NOTE]",
  "====",
  "This project is part of docToolchain (https://doctoolchain.org), a collection of documentation tools and best practices.",
  "====",
  "",
  "== Features",
  "",
  "=== Implemented Rules",
  "",
  "[cols=\"1,2,1,1\"]",
  "|===",
  "|Rule ID |Description |Severity |Status",
  "",
  "|HEAD001",
  "|Check for proper heading hierarchy (no skipping levels)",
  "|ERROR",
  "|\u2705 Stable",
  "",
  "|HEAD002",
  "|Verify heading format (spacing and capitalization)",
  "|ERROR/WARNING",
  "|\u2705 Stable",
  "",
  "|HEAD003",
  "|Detect multiple top-level headers",
  "|ERROR",
  "|\u2705 Stable",
  "",
  "|BLOCK001",
  "|Check for unterminated blocks (listing, example, sidebar, etc.)",
  "|ERROR",
  "|\u2705 Stable",
  "",
  "|BLOCK002",
  "|Verify proper spacing around blocks",
  "|WARNING",
  "|\u2705 Stable",
  "",
  "|WS001",
  "|Check whitespace usage (blank lines, list markers, tabs)",
  "|WARNING",
  "|\u2705 Stable",
  "",
  "|IMG001",
  "|Verify image attributes and file references",
  "|WARNING/ERROR",
  "|\u2705 Stable",
  "",
  "|TABLE001",
  "|Table formatting consistency",
  "|WARNING/ERROR",
  "|\u26A0\uFE0F Beta",
  "",
  "|FMT001",
  "|Detect explicit numbered lists (1., 2., etc.) instead of AsciiDoc dot-syntax",
  "|WARNING",
  "|\u2705 Stable",
  "",
  "|FMT002",
  "|Detect non-semantic definition list patterns (*Term*: instead of Term::)",
  "|WARNING",
  "|\u2705 Stable",
  "",
  "|FMT003",
  "|Detect counter syntax in section titles (\x7bcounter:...\x7d)",
  "|WARNING",
  "|\u2705 Stable",
  "",
  "|FMT004",
  "|Detect Markdown syntax in AsciiDoc files (headings, links, images, code blocks)",
  "|WARNING",
  "|\u2705 Stable",
  "|===",
  "",
  "=== Planned Rules",
  "",
  "* TABLE002: Table content validation",
  "* LINK001: Broken internal references",
  "",
  "== Installation",
  "",
  "[source,bash]",
  "----",
  "# Clone the repository",
  "git clone https://github.com/docToolchain/asciidoc-linter.git",
  "",
  "# Navigate to the project directory",
  "cd asciidoc-linter",
  "",
  "# Install the package",
  "pip install .",
  "----",
  "",
  "== Usage",
  "",
  "=== Basic Usage",
  "",
  "[source,bash]",
  "----",
  "# Check a single file",
  "asciidoc-linter document.adoc",
  "",
  "# Check multiple files",
  "asciidoc-linter doc1.adoc doc2.adoc",
  "",
  "# Check with specific output format",
  "asciidoc-linter --format json document.adoc",
  "----",
  "",
  "=== Output Formats",
  "",
  "The linter supports three output formats:",
  "",
  "* `console` (default): Human-readable output with color",
  "* `plain`: Human-readable output without color",
  "* `json`: Machine-readable JSON format",
  "* `html`: HTML report format",
  "",
  "=== Example Output",
  "",
  "[source]",
  "----",
  "Checking file: document.adoc",
  "",
  "ERROR: Heading level skipped: found h3 after h1 (line 15)",
  "  === Advanced Topics",
  "",
  "WARNING: Heading should start with uppercase letter (line 23)",
  "  == introduction to concepts",
  "",
  "ERROR: Unterminated listing block starting (line 45)",
  "  ----",
  "",
  "WARNING: Block should be preceded by a blank line (line 67)",
  "  ----",
  "",
  "ERROR: Multiple top-level headings found (line 30)",
  "  First heading at line 1: 'Document Title'",
  "",
  "WARNING: Missing alt text for image: diagram.png (line 80)",
  "  image::diagram.png[]",
  "----",
  "",
  "== Using with Docker",
  "",
  "You can run the AsciiDoc Linter in a Docker container without installing Python locally.",
  "",
  "=== Build the Docker image",
  "",
  "[source,bash]",
  "----",
  "docker build -t asciidoc-linter .",
  "----",
  "",
  "=== Run the linter",
  "",
  "[source,bash]",
  "----",
  "docker run --rm -v $(pwd):/docs asciidoc-linter document.adoc",
  "----",
  "",
  "Replace `document.adoc` with the path to the AsciiDoc file you want to lint.",
  "The `-v $(pwd):/docs` option mounts the current directory to `/docs` inside the container.",
  "",
  "== Using as a GitHub Action",
  "",
  "You can automatically lint your AsciiDoc files on every push or pull request by adding a workflow file.",
  "",
  "Create `.github/workflows/asciidoc-linter.yml`:",
  "",
  "[source,yaml]",
  "----",
  "name: AsciiDoc Linter",
  "",
  "on:",
  "  push:",
  "    branches: [main]",
  "  pull_request:",
  "    branches: [main]",
  "",
  "jobs:",
  "  lint:",
  "    runs-on: ubuntu-latest",
  "    steps:",
  "      - uses: actions/checkout@v4",
  "",
  "      - name: Build Docker image",
  "        run: docker build -t asciidoc-linter .",
  "",
  "      - name: Run AsciiDoc Linter",
  "        run: |",
  "          for file in $(find . -name \"*.adoc\" -type f); do",
  "            docker run --rm -v $\x7b\x7b github.workspace \x7d\x7d:/docs asciidoc-linter \"$file\"",
  "          done",
  "----",
  "",
  "== Development",
  "",
  "=== Current Status",
  "",
  "* Test Coverage: 95%",
  "* Test Success Rate: 100% (216/216 tests passing)",
  "* Known Issues:",
  "** Table content validation needs improvement",
  "",
  "=== Running Tests",
  "",
  "[source,bash]",
  "----",
  "# Run all tests",
  "python -m pytest",
  "",
  "# Run specific test file",
  "python -m pytest tests/rules/test_heading_rules.py",
  "",
  "# Run tests with coverage",
  "python run_tests_html.py",
  "----",
  "",
  "=== Project Structure",
  "",
  "[source]",
  "----",
  "asciidoc-linter/",
  "\u251C\u2500\u2500 asciidoc_linter/",
  "\u2502   \u251C\u2500\u2500 __init__.py",
  "\u2502   \u251C\u2500\u2500 cli.py",
  "\u2502   \u251C\u2500\u2500 linter.py",
  "\u2502   \u251C\u2500\u2500 parser.py",
  "\u2502   \u251C\u2500\u2500 reporter.py",
  "\u2502   \u2514\u2500\u2500 rules/",
  "\u2502       \u251C\u2500\u2500 __init__.py",
  "\u2502       \u251C\u2500\u2500 base.py",
  "\u2502       \u251C\u2500\u2500 base_rules.py",
  "\u2502       \u251C\u2500\u2500 block_rules.py",
  "\u2502       \u251C\u2500\u2500 format_rules.py",
  "\u2502       \u251C\u2500\u2500 heading_rules.py",
  "\u2502       \u251C\u2500\u2500 image_rules.py",
  "\u2502       \u251C\u2500\u2500 table_rules.py",
  "\u2502       \u2514\u2500\u2500 whitespace_rules.py",
  "\u251C\u2500\u2500 tests/",
  "\u2502   \u251C\u2500\u2500 __init__.py",
  "\u2502   \u251C\u2500\u2500 test_base.py",
  "\u2502   \u251C\u2500\u2500 test_cli.py",
  "\u2502   \u251C\u2500\u2500 test_linter.py",
  "\u2502   \u251C\u2500\u2500 test_reporter.py",
  "\u2502   \u2514\u2500\u2500 rules/",
  "\u2502       \u251C\u2500\u2500 test_block_rules.py",
  "\u2502       \u251C\u2500\u2500 test_format_rules.py",
  "\u2502       \u251C\u2500\u2500 test_heading_rules.py",
  "\u2502       \u251C\u2500\u2500 test_image_rules.py",
  "\u2502       \u251C\u2500\u2500 test_table_rules.py",
  "\u2502       \u2514\u2500\u2500 test_whitespace_rules.py",
  "\u251C\u2500\u2500 docs/",
  "\u2502   \u251C\u2500\u2500 arc42/",
  "\u2502   \u251C\u2500\u2500 manual/",
  "\u2502   \u251C\u2500\u2500 test-results/",
  "\u2502   \u251C\u2500\u2500 requirements.adoc",
  "\u2502   \u2514\u2500\u2500 implementation_plan.adoc",
  "\u251C\u2500\u2500 README.adoc",
  "\u2514\u2500\u2500 run_tests.py",
  "----",
  "",
  "== Contributing",
  "",
  "Contributions are welcome!",
  "Please feel free to submit a Pull Request.",
  "For major changes, please open an issue first to discuss what you would like to change.",
  "",
  "=== Development Guidelines",
  "",
  ". Write tests for new rules",
  ". Update documentation",
  ". Follow Python code style guidelines",
  ". Add appropriate error messages and context",
  ". Ensure test coverage remains above 90%",
  "",
  "== License",
  "",
  "This project is licensed under the MIT License - see the LICENSE file for details.",
  "",
  "== Acknowledgments",
  "",
  "* Part of the docToolchain project (https://doctoolchain.org)",
  "* Inspired by various linting tools and the need for better AsciiDoc quality control",
  "* Thanks to the AsciiDoc community for their excellent documentation and tools",
  "",
  "== Roadmap",
  "",
  "=== Phase 1 (Current)",
  "",
  "* \u2705 Basic heading rules",
  "* \u2705 Block structure rules",
  "* \u2705 Whitespace rules",
  "* \u2705 Image validation",
  "* \u26A0\uFE0F Table validation",
  "* \u23F3 Configuration system",
  "",
  "=== Phase 2 (Next)",
  "",
  "* 🔲 Fix table content validation",
  "* 🔲 Improve test coverage",
  "* 🔲 Add link checking",
  "* \u2705 Add format rules (FMT001-FMT004)",
  "",
  "=== Phase 3 (Future)",
  "",
  "* 🔲 IDE integration",
  "* 🔲 Git pre-commit hooks",
  "* 🔲 Custom rule development",
  "* 🔲 Performance optimization",
  "",
  "== Contact",
  "",
  "* Project Homepage: https://github.com/docToolchain/asciidoc-linter",
  "* Issue Tracker: https://github.com/docToolchain/asciidoc-linter/issues",
  "* docToolchain Homepage: https://doctoolchain.org"]

def readme : String :=
  "\n".intercalate readmeLines

end AdocLint.Package
